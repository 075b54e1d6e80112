import VmLaunch.Reference
import VmLaunch.Source.Record

/-!
# Regions and zones

A region names its zones by their full paths; a zone of the catalog is the last
segment of such a path together with its region.
-/

namespace VmLaunch

/-- A region as the provider lists it. -/
structure Region where
  name : String
  selfLink : String
  status : String
  description : String
  zones : List String
  deriving DecidableEq, Inhabited

/-- A zone of a region. -/
structure Zone where
  name : String
  region : String
  deriving DecidableEq, Inhabited

namespace Region

open Source in
/-- Read a region; every field may be missing. -/
def decode (value : Json) : Option Region := do
  let slots ← slots? ["name", "selfLink", "status", "description", "zones"] value
  let name ← slots.fieldOr "name" "" Source.text?
  let selfLink ← slots.fieldOr "selfLink" "" Source.text?
  let status ← slots.fieldOr "status" "" Source.text?
  let description ← slots.fieldOr "description" "" Source.text?
  let zones ← slots.fieldOr "zones" [] texts
  return { name, selfLink, status, description, zones }

/-- A region with every field. -/
def encode (r : Region) : Json :=
  .obj [("name", .str r.name), ("selfLink", .str r.selfLink), ("status", .str r.status),
    ("description", .str r.description), ("zones", Json.strs r.zones)]

/-- The names of the zones. -/
def zoneNames (r : Region) : List String :=
  r.zones.map shortName

/-- The zones of the region. -/
def toZones (r : Region) : List Zone :=
  r.zoneNames.map fun name => ⟨name, r.name⟩

end Region

namespace Zone

/-- A zone with every field. -/
def encode (z : Zone) : Json :=
  .obj [("name", .str z.name), ("region", .str z.region)]

end Zone

end VmLaunch
