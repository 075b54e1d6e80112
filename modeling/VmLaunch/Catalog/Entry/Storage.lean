import VmLaunch.Catalog.Entry.Lenient

/-!
# Disk types, disks, snapshots and policies

Storage resources as the provider lists them, and the resource policies that act
on them. Of a policy only its kind matters, which is the first of its schedules
that is present; the schedules themselves are kept as they are.
-/

namespace VmLaunch

/-- A disk type. -/
structure DiskType where
  name : String
  description : String
  selfLink : String
  zone : String
  validDiskSize : String
  defaultDiskSizeGb : UInt64
  deriving DecidableEq, Inhabited

/-- A disk, with the machines it is attached to. -/
structure Disk where
  name : String
  selfLink : String
  zone : String
  status : String
  diskType : String
  sizeGb : UInt64
  users : List String
  deriving DecidableEq, Inhabited

/-- A snapshot of a disk. -/
structure Snapshot where
  name : String
  selfLink : String
  status : String
  sourceDisk : String
  diskSizeGb : UInt64
  storageBytes : UInt64
  deriving DecidableEq, Inhabited

/-- A resource policy. -/
structure ResourcePolicy where
  name : String
  selfLink : String
  region : String
  description : String
  status : String
  snapshotSchedule : Option Json
  instanceSchedule : Option Json
  groupPlacement : Option Json
  deriving Inhabited

/-- What a resource policy is about. -/
inductive PolicyKind where
  | snapshotSchedule
  | instanceSchedule
  | groupPlacement
  | other
  deriving DecidableEq, Inhabited

namespace DiskType

open Source in
/-- Read a disk type; every field may be missing. -/
def decode (value : Json) : Option DiskType := do
  let slots ← slots?
    ["name", "description", "selfLink", "zone", "validDiskSize", "defaultDiskSizeGb"] value
  let name ← slots.fieldOr "name" "" Source.text?
  let description ← slots.fieldOr "description" "" Source.text?
  let selfLink ← slots.fieldOr "selfLink" "" Source.text?
  let zone ← slots.fieldOr "zone" "" Source.text?
  let validDiskSize ← slots.fieldOr "validDiskSize" "" Source.text?
  let defaultDiskSizeGb ← slots.fieldOr "defaultDiskSizeGb" 0 Lenient.nat64
  return { name, description, selfLink, zone, validDiskSize, defaultDiskSizeGb }

/-- A disk type with every field. -/
def encode (d : DiskType) : Json :=
  .obj [("name", .str d.name), ("description", .str d.description),
    ("selfLink", .str d.selfLink), ("zone", .str d.zone),
    ("validDiskSize", .str d.validDiskSize),
    ("defaultDiskSizeGb", Lenient.encode d.defaultDiskSizeGb)]

end DiskType

namespace Disk

open Source in
/-- Read a disk; every field may be missing. -/
def decode (value : Json) : Option Disk := do
  let slots ← slots? ["name", "selfLink", "zone", "status", "type", "sizeGb", "users"] value
  let name ← slots.fieldOr "name" "" Source.text?
  let selfLink ← slots.fieldOr "selfLink" "" Source.text?
  let zone ← slots.fieldOr "zone" "" Source.text?
  let status ← slots.fieldOr "status" "" Source.text?
  let diskType ← slots.fieldOr "type" "" Source.text?
  let sizeGb ← slots.fieldOr "sizeGb" 0 Lenient.nat64
  let users ← slots.fieldOr "users" [] texts
  return { name, selfLink, zone, status, diskType, sizeGb, users }

/-- A disk with every field. -/
def encode (d : Disk) : Json :=
  .obj [("name", .str d.name), ("selfLink", .str d.selfLink), ("zone", .str d.zone),
    ("status", .str d.status), ("type", .str d.diskType), ("sizeGb", Lenient.encode d.sizeGb),
    ("users", Json.strs d.users)]

/-- Whether the disk is attached to a machine. -/
def isAttached (d : Disk) : Bool :=
  !d.users.isEmpty

end Disk

namespace Snapshot

open Source in
/-- Read a snapshot; every field may be missing. -/
def decode (value : Json) : Option Snapshot := do
  let slots ← slots?
    ["name", "selfLink", "status", "sourceDisk", "diskSizeGb", "storageBytes"] value
  let name ← slots.fieldOr "name" "" Source.text?
  let selfLink ← slots.fieldOr "selfLink" "" Source.text?
  let status ← slots.fieldOr "status" "" Source.text?
  let sourceDisk ← slots.fieldOr "sourceDisk" "" Source.text?
  let diskSizeGb ← slots.fieldOr "diskSizeGb" 0 Lenient.nat64
  let storageBytes ← slots.fieldOr "storageBytes" 0 Lenient.nat64
  return { name, selfLink, status, sourceDisk, diskSizeGb, storageBytes }

/-- A snapshot with every field. -/
def encode (s : Snapshot) : Json :=
  .obj [("name", .str s.name), ("selfLink", .str s.selfLink), ("status", .str s.status),
    ("sourceDisk", .str s.sourceDisk), ("diskSizeGb", Lenient.encode s.diskSizeGb),
    ("storageBytes", Lenient.encode s.storageBytes)]

end Snapshot

namespace ResourcePolicy

open Source in
/-- Read a resource policy; every field may be missing. -/
def decode (value : Json) : Option ResourcePolicy := do
  let slots ← slots?
    ["name", "selfLink", "region", "description", "status", "snapshotSchedulePolicy",
      "instanceSchedulePolicy", "groupPlacementPolicy"] value
  let name ← slots.fieldOr "name" "" Source.text?
  let selfLink ← slots.fieldOr "selfLink" "" Source.text?
  let region ← slots.fieldOr "region" "" Source.text?
  let description ← slots.fieldOr "description" "" Source.text?
  let status ← slots.fieldOr "status" "" Source.text?
  let snapshotSchedule ← slots.fieldOr "snapshotSchedulePolicy" none (optional some)
  let instanceSchedule ← slots.fieldOr "instanceSchedulePolicy" none (optional some)
  let groupPlacement ← slots.fieldOr "groupPlacementPolicy" none (optional some)
  return { name, selfLink, region, description, status, snapshotSchedule, instanceSchedule,
           groupPlacement }

/-- A resource policy with every field, schedules only when there are any. -/
def encode (p : ResourcePolicy) : Json :=
  .obj ([("name", .str p.name), ("selfLink", .str p.selfLink), ("region", .str p.region),
      ("description", .str p.description), ("status", .str p.status)] ++
    Json.memberWhen "snapshotSchedulePolicy" id p.snapshotSchedule ++
    Json.memberWhen "instanceSchedulePolicy" id p.instanceSchedule ++
    Json.memberWhen "groupPlacementPolicy" id p.groupPlacement)

/-- What the policy is about. -/
def kind (p : ResourcePolicy) : PolicyKind :=
  if p.snapshotSchedule.isSome then .snapshotSchedule
  else if p.instanceSchedule.isSome then .instanceSchedule
  else if p.groupPlacement.isSome then .groupPlacement
  else .other

end ResourcePolicy

end VmLaunch
