import VmLaunch.Catalog.Entry.Lenient

/-!
# Machine types and images

A machine type carries an estimate of its price once the catalog has listed it.
An image that the provider withdrew carries a deprecation record with its state.
-/

namespace VmLaunch

/-- A machine type as the provider lists it, with the estimate of the catalog. -/
structure MachineType where
  name : String
  description : String
  selfLink : String
  guestCpus : UInt32
  memoryMb : UInt64
  zone : String
  isSharedCpu : Bool
  estimatedMonthlyCost : Option String
  deriving DecidableEq, Inhabited

/-- The state of a withdrawn image. -/
structure Deprecation where
  state : String
  replacement : String
  deriving DecidableEq, Inhabited

/-- An image as the provider lists it. -/
structure Image where
  name : String
  selfLink : String
  family : String
  description : String
  status : String
  architecture : String
  diskSizeGb : UInt64
  deprecated : Option Deprecation
  deriving DecidableEq, Inhabited

namespace MachineType

open Source in
/-- Read a machine type; every field may be missing. -/
def decode (value : Json) : Option MachineType := do
  let slots ← slots?
    ["name", "description", "selfLink", "guestCpus", "memoryMb", "zone", "isSharedCpu",
      "estimatedMonthlyCost"] value
  let name ← slots.fieldOr "name" "" Source.text?
  let description ← slots.fieldOr "description" "" Source.text?
  let selfLink ← slots.fieldOr "selfLink" "" Source.text?
  let guestCpus ← slots.fieldOr "guestCpus" 0 nat32
  let memoryMb ← slots.fieldOr "memoryMb" 0 Lenient.nat64
  let zone ← slots.fieldOr "zone" "" Source.text?
  let isSharedCpu ← slots.fieldOr "isSharedCpu" false Source.flag?
  let estimatedMonthlyCost ← slots.fieldOr "estimatedMonthlyCost" none optionalText
  return { name, description, selfLink, guestCpus, memoryMb, zone, isSharedCpu,
           estimatedMonthlyCost }

/-- A machine type with every field, the estimate only when there is one. -/
def encode (m : MachineType) : Json :=
  .obj ([("name", .str m.name), ("description", .str m.description),
      ("selfLink", .str m.selfLink), ("guestCpus", Json.int m.guestCpus.toNat),
      ("memoryMb", Lenient.encode m.memoryMb), ("zone", .str m.zone),
      ("isSharedCpu", .bool m.isSharedCpu)] ++
    Json.memberWhen "estimatedMonthlyCost" Json.str m.estimatedMonthlyCost)

/-- Memory in gigabytes. -/
def memoryGb (m : MachineType) : Float :=
  m.memoryMb.toFloat / 1024.0

end MachineType

namespace Deprecation

open Source in
/-- Read a deprecation record; every field may be missing. -/
def decode (value : Json) : Option Deprecation := do
  let slots ← slots? ["state", "replacement"] value
  let state ← slots.fieldOr "state" "" Source.text?
  let replacement ← slots.fieldOr "replacement" "" Source.text?
  return { state, replacement }

/-- A deprecation record with every field. -/
def encode (d : Deprecation) : Json :=
  .obj [("state", .str d.state), ("replacement", .str d.replacement)]

end Deprecation

namespace Image

open Source in
/-- Read an image; every field may be missing. -/
def decode (value : Json) : Option Image := do
  let slots ← slots?
    ["name", "selfLink", "family", "description", "status", "architecture", "diskSizeGb",
      "deprecated"] value
  let name ← slots.fieldOr "name" "" Source.text?
  let selfLink ← slots.fieldOr "selfLink" "" Source.text?
  let family ← slots.fieldOr "family" "" Source.text?
  let description ← slots.fieldOr "description" "" Source.text?
  let status ← slots.fieldOr "status" "" Source.text?
  let architecture ← slots.fieldOr "architecture" "" Source.text?
  let diskSizeGb ← slots.fieldOr "diskSizeGb" 0 Lenient.nat64
  let deprecated ← slots.fieldOr "deprecated" none (optional Deprecation.decode)
  return { name, selfLink, family, description, status, architecture, diskSizeGb, deprecated }

/-- An image with every field, the deprecation only when there is one. -/
def encode (i : Image) : Json :=
  .obj ([("name", .str i.name), ("selfLink", .str i.selfLink), ("family", .str i.family),
      ("description", .str i.description), ("status", .str i.status),
      ("architecture", .str i.architecture), ("diskSizeGb", Lenient.encode i.diskSizeGb)] ++
    Json.memberWhen "deprecated" Deprecation.encode i.deprecated)

/-- Whether the provider withdrew the image: its record has a state other than `ACTIVE`. -/
def isDeprecated (i : Image) : Bool :=
  match i.deprecated with
  | some record => record.state != "" && record.state != "ACTIVE"
  | none => false

end Image

end VmLaunch
