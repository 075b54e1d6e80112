import VmLaunch.Json.Basic
import VmLaunch.Reference
import VmLaunch.Spec.Check

/-!
# Disks of a request

The boot disk comes first, then one disk for each further disk of the spec, then
the local SSDs. What a disk is made of is one of three things: an existing disk
that is attached, a new persistent disk that is created with the machine, or a
scratch disk, which lives with the machine and always uses NVMe.
-/

namespace VmLaunch

/-- A resolved boot source. -/
inductive BootOrigin where
  | image (path : String)
  | snapshot (path : String)
  | disk (path : String)
  deriving DecidableEq, Inhabited

/-- What a new disk is filled from. -/
inductive DiskFill where
  | image (path : String)
  | snapshot (path : String)
  | empty
  deriving DecidableEq, Inhabited

/-- A persistent disk created with the machine. -/
structure NewDisk where
  name : Option String
  fill : DiskFill
  sizeGb : Int64
  diskType : String
  resourcePolicies : List String
  deriving DecidableEq, Inhabited

/-- What an attached disk is made of. -/
inductive DiskContent where
  | existing (source : String) (readOnly : Bool)
  | created (disk : NewDisk)
  | scratch (diskType : String)
  deriving DecidableEq, Inhabited

/-- One disk of the machine. -/
structure AttachedDisk where
  boot : Bool
  autoDelete : Bool
  content : DiskContent
  deviceName : Option String
  kmsKey : Option String
  deriving DecidableEq, Inhabited

namespace NewDisk

/-- The parameters of a new disk. -/
def encode (d : NewDisk) : Json :=
  .obj (Json.memberWhen "diskName" Json.str d.name ++
    (match d.fill with
      | .image path => [("sourceImage", .str path)]
      | .snapshot path => [("sourceSnapshot", .str path)]
      | .empty => []) ++
    [("diskSizeGb", Json.int d.sizeGb.toInt), ("diskType", .str d.diskType)] ++
    Json.memberWhenAny "resourcePolicies" Json.strs d.resourcePolicies)

end NewDisk

namespace DiskContent

/-- The word for the kind of disk. -/
def kind : DiskContent → String
  | .scratch _ => "SCRATCH"
  | _ => "PERSISTENT"

/-- The members that say how and from where an existing disk is attached, or over what
interface a scratch disk is. -/
def attachment : DiskContent → List (String × Json)
  | .existing source readOnly =>
    [("mode", .str (if readOnly then "READ_ONLY" else "READ_WRITE")), ("source", .str source)]
  | .created _ => []
  | .scratch _ => [("interface", .str "NVME")]

/-- The member that says how the disk is made, when it does not exist yet. -/
def parameters : DiskContent → List (String × Json)
  | .existing _ _ => []
  | .created disk => [("initializeParams", disk.encode)]
  | .scratch diskType => [("initializeParams", .obj [("diskType", .str diskType)])]

end DiskContent

namespace AttachedDisk

/-- The disk as a part of a request. -/
def encode (d : AttachedDisk) : Json :=
  .obj ([("boot", .bool d.boot), ("autoDelete", .bool d.autoDelete),
      ("type", .str d.content.kind)] ++
    d.content.attachment ++
    Json.memberWhen "deviceName" Json.str d.deviceName ++
    d.content.parameters ++
    Json.memberWhen "diskEncryptionKey" (fun key => .obj [("kmsKeyName", .str key)]) d.kmsKey)

end AttachedDisk

namespace Disks

/-- The type of a disk when none is asked for. -/
def defaultType : String := "pd-balanced"

/-- The size of a disk when none is asked for. -/
def defaultSizeGb : Int64 := 10

/-- The type whose disks are scratch disks. -/
def localSsdType : String := "local-ssd"

/-- The most local SSDs that one machine can have. -/
def maxLocalSsds : Nat := 8

/-- The types that a boot disk can have. -/
def bootTypes : List String :=
  ["pd-balanced", "pd-ssd", "pd-standard"]

/-- Whether a boot disk can have the type. -/
def isBootType (diskType : String) : Bool :=
  bootTypes.contains diskType

/-- The size asked for when it is at least one, else the default. -/
def size (sizeGb : Option Int64) : Int64 :=
  match sizeGb with
  | some n => if 1 ≤ n.toInt then n else defaultSizeGb
  | none => defaultSizeGb

/-- The short name of the type of a new boot disk: the one asked for when a boot disk
can have it, else the default. -/
def bootType (diskType : Option String) : String :=
  match Text.given? diskType with
  | some asked =>
    let name := shortName asked
    if isBootType name then name else defaultType
  | none => defaultType

/-- The boot disk as it is created from an image or a snapshot. -/
def newBootDisk (config : Spec.BootDisk) (scope : Scope) (fill : DiskFill) : NewDisk where
  name := none
  fill := fill
  sizeGb := size config.sizeGb
  diskType := diskTypePath (bootType config.diskType) scope.project scope.zone
  resourcePolicies :=
    match Text.given? config.snapshotSchedule with
    | some policy => [resourcePolicyPath policy scope.project scope.region]
    | none => []

/-- The boot disk. -/
def boot (config : Spec.BootDisk) (origin : BootOrigin) (scope : Scope) : AttachedDisk where
  boot := true
  autoDelete := config.autoDelete
  content :=
    match origin with
    | .disk path => .existing path false
    | .image path => .created (newBootDisk config scope (.image path))
    | .snapshot path => .created (newBootDisk config scope (.snapshot path))
  deviceName := Text.given? config.deviceName
  kmsKey := Text.given? config.kmsKey

/-- A local SSD. -/
def localSsd (project zone : String) (deviceName : Option String) : AttachedDisk where
  boot := false
  autoDelete := true
  content := .scratch (diskTypePath localSsdType project zone)
  deviceName := deviceName
  kmsKey := none

/-- A further disk that stands at `index` in the spec. A new disk without a name is
called after the machine and its position, counted from one; a new disk of the
local SSD type is a local SSD without a device name. -/
def extra (instanceName : String) (scope : Scope) (index : Nat) : Spec.ExtraDisk → AttachedDisk
  | .existing disk readOnly autoDelete deviceName =>
    { boot := false
      autoDelete
      content := .existing (diskPath disk scope.project scope.zone) readOnly
      deviceName := Text.given? deviceName
      kmsKey := none }
  | .new name sizeGb diskType autoDelete kmsKey =>
    let diskType := (Text.given? diskType).getD defaultType
    if shortName diskType == localSsdType then localSsd scope.project scope.zone none
    else
      { boot := false
        autoDelete
        content := .created {
          name := some ((Text.given? name).getD
            (instanceName ++ "-disk-" ++ toString (index + 1)))
          fill := .empty
          sizeGb := size sizeGb
          diskType := diskTypePath diskType scope.project scope.zone
          resourcePolicies := [] }
        deviceName := none
        kmsKey := Text.given? kmsKey }

/-- The further disks from a position on. -/
def extrasFrom (instanceName : String) (scope : Scope) (index : Nat) :
    List Spec.ExtraDisk → List AttachedDisk
  | [] => []
  | disk :: rest =>
    extra instanceName scope index disk :: extrasFrom instanceName scope (index + 1) rest

/-- The number of local SSDs for a count that was asked for. -/
def localSsdCount (count : Int64) : Nat :=
  min count.toInt.toNat maxLocalSsds

/-- The local SSDs, each with a device name. -/
def localSsds (count : Int64) (project zone : String) : List AttachedDisk :=
  (List.range (localSsdCount count)).map fun index =>
    localSsd project zone (some ("local-ssd-" ++ toString index))

/-- All disks of a machine, the boot disk first. -/
def all (spec : MachineSpec) (origin : BootOrigin) (scope : Scope) : List AttachedDisk :=
  boot spec.bootDisk origin scope ::
    (extrasFrom spec.instanceName scope 0 spec.additionalDisks ++
      localSsds spec.localSsdCount scope.project scope.zone)

end Disks

end VmLaunch
