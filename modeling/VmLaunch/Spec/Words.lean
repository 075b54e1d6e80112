import VmLaunch.Spec.Basic

/-!
# Words of a spec

The words by which alternatives are named in a spec and, where the provider uses
them too, in a request. Each reading function is the inverse of its word.
-/

namespace VmLaunch.Spec

/-- The word for a provisioning model. -/
def ProvisioningModel.word : ProvisioningModel → String
  | .standard => "STANDARD"
  | .spot => "SPOT"

/-- The provisioning model that a word names. -/
def ProvisioningModel.ofWord? (word : String) : Option ProvisioningModel :=
  if word = "STANDARD" then some .standard
  else if word = "SPOT" then some .spot
  else none

/-- Every provisioning model. -/
def ProvisioningModel.all : List ProvisioningModel :=
  [.standard, .spot]

/-- The word for a reaction to host maintenance. -/
def HostMaintenance.word : HostMaintenance → String
  | .migrate => "MIGRATE"
  | .terminate => "TERMINATE"

/-- The reaction to host maintenance that a word names. -/
def HostMaintenance.ofWord? (word : String) : Option HostMaintenance :=
  if word = "MIGRATE" then some .migrate
  else if word = "TERMINATE" then some .terminate
  else none

/-- Every reaction to host maintenance. -/
def HostMaintenance.all : List HostMaintenance :=
  [.migrate, .terminate]

/-- The word for a confidential computing technology. -/
def ConfidentialType.word : ConfidentialType → String
  | .sev => "SEV"
  | .sevSnp => "SEV_SNP"
  | .tdx => "TDX"

/-- The confidential computing technology that a word names. -/
def ConfidentialType.ofWord? (word : String) : Option ConfidentialType :=
  if word = "SEV" then some .sev
  else if word = "SEV_SNP" then some .sevSnp
  else if word = "TDX" then some .tdx
  else none

/-- Every confidential computing technology. -/
def ConfidentialType.all : List ConfidentialType :=
  [.sev, .sevSnp, .tdx]

end VmLaunch.Spec
