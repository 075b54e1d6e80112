import VmLaunch.Json.Basic
import VmLaunch.Reference
import VmLaunch.Spec.Check
import VmLaunch.Spec.Words
import VmLaunch.Text.Casing

/-!
# Scheduling of a request

A spot machine is preemptible, stops when it is terminated, does not restart and
does not migrate. A machine with accelerators or confidential memory cannot
migrate either. Resource policies are the maintenance policy and the further
policies, each path once.
-/

namespace VmLaunch

/-- Accelerators of one type. -/
structure GuestAccelerator where
  acceleratorType : String
  count : Int64
  deriving DecidableEq, Inhabited

/-- A constraint on the hosts of the machine. -/
structure HostAffinity where
  key : String
  operator : String
  values : List String
  deriving DecidableEq, Inhabited

/-- How the machine is scheduled. -/
structure Scheduling where
  model : Spec.ProvisioningModel
  onHostMaintenance : Spec.HostMaintenance
  automaticRestart : Bool
  nodeAffinities : List HostAffinity
  minNodeCpus : Option Int64
  deriving DecidableEq, Inhabited

namespace GuestAccelerator

/-- The accelerator of a spec, when it has a type and a count of at least one. -/
def ofSpec? (scope : Scope) (a : Spec.Accelerator) : Option GuestAccelerator :=
  match Text.filled? a.acceleratorType with
  | none => none
  | some acceleratorType =>
    if 1 ≤ a.count.toInt then
      some ⟨acceleratorTypePath acceleratorType scope.project scope.zone, a.count⟩
    else none

/-- The accelerators of a spec. -/
def ofSpecs (scope : Scope) (accelerators : List Spec.Accelerator) : List GuestAccelerator :=
  accelerators.filterMap (ofSpec? scope)

/-- The accelerators as a part of a request. -/
def encode (a : GuestAccelerator) : Json :=
  .obj [("acceleratorType", .str a.acceleratorType), ("acceleratorCount", Json.int a.count.toInt)]

end GuestAccelerator

namespace HostAffinity

/-- The operator in capitals; `IN` when none is given. -/
def operatorOf (text : String) : String :=
  match Text.filled? text with
  | some operator => Text.upper operator
  | none => "IN"

/-- The affinity of a spec, when it has a key and a value. -/
def ofSpec? (a : Spec.NodeAffinity) : Option HostAffinity :=
  match Text.filled? a.key, Text.filledAll a.values with
  | some key, value :: values => some ⟨key, operatorOf a.operator, value :: values⟩
  | _, _ => none

/-- The affinity as a part of a request. -/
def encode (a : HostAffinity) : Json :=
  .obj [("key", .str a.key), ("operator", .str a.operator), ("values", Json.strs a.values)]

end HostAffinity

namespace Scheduling

/-- The number of node processors, when it is positive. -/
def minNodeCpusOf (asked : Option Int64) : Option Int64 :=
  asked.filter fun n => 0 < n.toInt

/-- The reaction to host maintenance of a machine that must not, or may, migrate. -/
def maintenanceOf (pinned : Bool) (asked : Spec.HostMaintenance) : Spec.HostMaintenance :=
  if pinned then .terminate else asked

/-- The scheduling of a spec with or without accelerators. -/
def ofSpec (spec : MachineSpec) (hasAccelerators : Bool) : Scheduling :=
  let nodeAffinities := spec.advanced.nodeAffinities.filterMap HostAffinity.ofSpec?
  let minNodeCpus := minNodeCpusOf spec.advanced.minNodeCpus
  match spec.machine.provisioningModel with
  | .spot => ⟨.spot, .terminate, false, nodeAffinities, minNodeCpus⟩
  | .standard =>
    ⟨.standard,
      maintenanceOf (hasAccelerators || spec.security.confidentialVmType.isSome)
        spec.management.onHostMaintenance,
      spec.management.automaticRestart, nodeAffinities, minNodeCpus⟩

/-- Whether the provider may stop the machine at any time. -/
def preemptible (s : Scheduling) : Bool :=
  s.model == .spot

/-- What the provider does when it stops the machine. -/
def terminationAction (s : Scheduling) : Option String :=
  match s.model with
  | .spot => some "STOP"
  | .standard => none

/-- The scheduling as a part of a request. -/
def encode (s : Scheduling) : Json :=
  .obj ([("preemptible", .bool s.preemptible),
      ("onHostMaintenance", .str s.onHostMaintenance.word),
      ("automaticRestart", .bool s.automaticRestart),
      ("provisioningModel", .str s.model.word)] ++
    Json.memberWhen "instanceTerminationAction" Json.str s.terminationAction ++
    Json.memberWhenAny "nodeAffinities" (fun list => .arr (list.map HostAffinity.encode))
      s.nodeAffinities ++
    Json.memberWhen "minNodeCpus" (fun n => Json.int n.toInt) s.minNodeCpus)

end Scheduling

namespace ResourcePolicies

/-- The policies of a spec that are not blank, qualified, the maintenance policy first. -/
def ofSpec (spec : MachineSpec) (scope : Scope) : List String :=
  ((Text.filledAll
      (spec.management.maintenancePolicy.toList ++ spec.advanced.resourcePolicies)).map
    fun policy => resourcePolicyPath policy scope.project scope.region).eraseDups

end ResourcePolicies

end VmLaunch
