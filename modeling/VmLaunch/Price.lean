import VmLaunch.Decimal.Text
import VmLaunch.Spec.Words

/-!
# Prices

What a machine costs in a month is estimated from hourly rates for one virtual
processor and one gigabyte of memory. Rates are kept in millionths of a dollar.
The estimate is computed in doubles and rounded to cents, a half going away from
zero.
-/

namespace VmLaunch

/-- Hourly rates in millionths of a dollar. -/
structure Rates where
  vcpu : Nat
  memoryGb : Nat
  deriving DecidableEq, Inhabited

/-- The rates of one region. -/
structure RegionRates where
  standard : Rates
  spot : Rates
  deriving DecidableEq, Inhabited

namespace Price

/-- The rates of the cheapest regions. -/
def baseRates : RegionRates :=
  ⟨⟨21811, 2923⟩, ⟨6543, 877⟩⟩

/-- The regions with rates of their own. -/
def table : List (String × RegionRates) :=
  [("us-central1", baseRates),
   ("us-east1", baseRates),
   ("us-west1", baseRates),
   ("us-east4", ⟨⟨24561, 3291⟩, ⟨7368, 987⟩⟩),
   ("europe-west1", ⟨⟨23984, 3214⟩, ⟨7195, 964⟩⟩),
   ("europe-west4", ⟨⟨24006, 3217⟩, ⟨7202, 965⟩⟩),
   ("asia-east1", ⟨⟨25262, 3385⟩, ⟨7579, 1016⟩⟩),
   ("asia-northeast1", ⟨⟨28009, 3754⟩, ⟨8403, 1126⟩⟩),
   ("asia-southeast1", ⟨⟨26864, 3600⟩, ⟨8059, 1080⟩⟩)]

/-- The rates of every other region. -/
def otherRates : RegionRates :=
  ⟨⟨25000, 3400⟩, ⟨7500, 1020⟩⟩

/-- The rates of a region for one provisioning model. -/
def rates (region : String) (model : Spec.ProvisioningModel) : Rates :=
  let row := (table.lookup region).getD otherRates
  match model with
  | .standard => row.standard
  | .spot => row.spot

/-- A rate in dollars. -/
def dollars (rate : Nat) : Binary64 :=
  Binary64.ofDecimal false rate (-6)

/-- Billing hours in a month. -/
def hoursPerMonth : Float := 730.0

/-- The cost of a month in dollars. -/
def monthly (region : String) (model : Spec.ProvisioningModel) (vcpus memoryGb : Float) : Float :=
  let r := rates region model
  let exact :=
    ((dollars r.vcpu).toFloat * vcpus + (dollars r.memoryGb).toFloat * memoryGb) * hoursPerMonth
  (exact * 100.0).round / 100.0

/-- A cost as a listing shows it. -/
def label (cost : Float) : String :=
  "~$" ++ (Binary64.ofFloat cost).fixed 2 ++ "/mo"

end Price

end VmLaunch
