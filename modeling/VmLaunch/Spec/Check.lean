import VmLaunch.Firewall.Rule
import VmLaunch.Names
import VmLaunch.Spec.Basic

/-!
# Checking specs

`MachineSpec.check` finds the first fault that can be found without asking the
provider, and `MachineSpec.scope` completes the project and location of a run.
-/

namespace VmLaunch

/-- Why a spec cannot be launched. -/
inductive SpecError where
  | noInstanceName
  | badInstanceName (name : String)
  | noZone
  | noMachineType
  | noBootSource
  | blankBootSource
  | rule (cause : RuleError)
  deriving DecidableEq, Inhabited

/-- The project and the location that one run works in. -/
structure Scope where
  project : String
  region : String
  zone : String
  deriving DecidableEq, Inhabited

namespace Spec

/-- The name of an image choice. -/
def ImageChoice.text : ImageChoice → String
  | .name text => text
  | .family text => text

/-- Whether a boot source lacks a name that it needs. -/
def BootSource.incomplete : BootSource → Bool
  | .publicImage imageProject choice => Text.blank imageProject || Text.blank choice.text
  | .customImage text => Text.blank text
  | .snapshot text => Text.blank text
  | .existingDisk text => Text.blank text

end Spec

namespace MachineSpec

/-- The complete rules of a spec, or the first fault among them. -/
def rules (spec : MachineSpec) : Except SpecError (List FirewallRule) :=
  (FirewallRule.ofTexts spec.networking.firewallRules).mapError SpecError.rule

/-- The first fault of a spec. -/
def check (spec : MachineSpec) : Except SpecError Unit :=
  if spec.instanceName == "" then .error .noInstanceName
  else if !isInstanceName spec.instanceName then .error (.badInstanceName spec.instanceName)
  else if Text.blank spec.zone then .error .noZone
  else if Text.blank spec.machine.machineType then .error .noMachineType
  else
    match spec.bootDisk.source with
    | none => .error .noBootSource
    | some source =>
      if source.incomplete then .error .blankBootSource
      else spec.rules.map fun _ => ()

/-- The scope of a run: blank settings take the default project and the zone's region. -/
def scope (spec : MachineSpec) (defaultProject : String) : Scope where
  project := (Text.given? spec.project).getD defaultProject
  region := (Text.given? spec.region).getD (regionOfZone (Text.trim spec.zone))
  zone := Text.trim spec.zone

end MachineSpec

end VmLaunch
