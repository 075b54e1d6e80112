import VmLaunch.Request.Disk
import VmLaunch.Request.Identity
import VmLaunch.Request.Interface
import VmLaunch.Request.Metadata
import VmLaunch.Request.Scheduling

/-!
# Insert requests

An `InsertRequest` is everything the provider is told about a new machine.
`InsertRequest.assemble` composes it from a spec whose references were resolved;
its JSON form leaves out whatever is unset or empty.
-/

namespace VmLaunch

/-- The request that creates a machine. -/
structure InsertRequest where
  name : String
  machineType : String
  description : Option String
  minCpuPlatform : Option String
  disks : List AttachedDisk
  interface : NetworkInterface
  scheduling : Scheduling
  metadata : Metadata
  tags : List String
  labels : List (String × String)
  serviceAccount : Option ServiceAccount
  accelerators : List GuestAccelerator
  resourcePolicies : List String
  shieldedVm : Option Spec.ShieldedVm
  confidentialType : Option Spec.ConfidentialType
  enableDisplay : Bool
  deletionProtection : Bool
  canIpForward : Bool
  deriving DecidableEq, Inhabited

/-- What a run finds out before it composes the request. -/
structure Resolved where
  origin : BootOrigin
  addresses : StaticAddresses
  deriving DecidableEq, Inhabited

namespace InsertRequest

/-- Compose the request of a spec. -/
def assemble (spec : MachineSpec) (scope : Scope) (resolved : Resolved)
    (ruleTags : List String) : InsertRequest :=
  let accelerators := GuestAccelerator.ofSpecs scope spec.advanced.accelerators
  { name := spec.instanceName
    machineType := machineTypePath (Text.trim spec.machine.machineType) scope.zone
    description := Text.given? spec.advanced.description
    minCpuPlatform := Text.given? spec.machine.minCpuPlatform
    disks := Disks.all spec resolved.origin scope
    interface := NetworkInterface.ofSpec spec.networking scope resolved.addresses
    scheduling := Scheduling.ofSpec spec (!accelerators.isEmpty)
    metadata := Metadata.ofSpec spec
    tags := Tags.ofTexts (spec.networking.tags ++ ruleTags)
    labels := Labels.ofSpec spec.advanced.labels
    serviceAccount := ServiceAccount.ofSpec? spec.identity
    accelerators
    resourcePolicies := ResourcePolicies.ofSpec spec scope
    shieldedVm := spec.security.shieldedVm
    confidentialType := spec.security.confidentialVmType
    enableDisplay := spec.advanced.enableDisplay
    deletionProtection := spec.advanced.deletionProtection
    canIpForward := spec.advanced.canIpForward }

/-- A member that is present exactly when a flag is set. -/
def flagMember (key : String) (value : Json) (flag : Bool) : List (String × Json) :=
  if flag then [(key, value)] else []

/-- The request as JSON. -/
def encode (r : InsertRequest) : Json :=
  .obj ([("name", .str r.name), ("machineType", .str r.machineType)] ++
    Json.memberWhen "description" Json.str r.description ++
    Json.memberWhen "minCpuPlatform" Json.str r.minCpuPlatform ++
    [("disks", .arr (r.disks.map AttachedDisk.encode)),
      ("networkInterfaces", .arr [r.interface.encode]),
      ("scheduling", r.scheduling.encode)] ++
    Json.memberWhenAny "metadata" Metadata.encode r.metadata ++
    Json.memberWhenAny "tags" Tags.encode r.tags ++
    Json.memberWhenAny "labels" Labels.encode r.labels ++
    Json.memberWhen "serviceAccounts" (fun account => .arr [ServiceAccount.encode account])
      r.serviceAccount ++
    Json.memberWhenAny "guestAccelerators" (fun list => .arr (list.map GuestAccelerator.encode))
      r.accelerators ++
    Json.memberWhenAny "resourcePolicies" Json.strs r.resourcePolicies ++
    Json.memberWhen "shieldedInstanceConfig" Protection.encodeShielded r.shieldedVm ++
    Json.memberWhen "confidentialInstanceConfig" Protection.encodeConfidential
      r.confidentialType ++
    flagMember "displayDevice" (.obj [("enableDisplay", .bool true)]) r.enableDisplay ++
    flagMember "deletionProtection" (.bool true) r.deletionProtection ++
    flagMember "canIpForward" (.bool true) r.canIpForward)

/-- The disk the machine starts from, when the first disk is one. -/
def bootDisk? (r : InsertRequest) : Option AttachedDisk :=
  r.disks.head?.filter AttachedDisk.boot

end InsertRequest

end VmLaunch
