import VmLaunch.Firewall.Allow
import VmLaunch.Source.Record

/-!
# Networks, addresses and firewall rules

Network resources as the provider lists them.
-/

namespace VmLaunch

/-- A network. -/
structure Network where
  name : String
  selfLink : String
  description : String
  autoCreateSubnetworks : Bool
  subnetworks : List String
  deriving DecidableEq, Inhabited

/-- A subnetwork of a network. -/
structure Subnetwork where
  name : String
  selfLink : String
  network : String
  region : String
  ipCidrRange : String
  stackType : String
  deriving DecidableEq, Inhabited

/-- A reserved address. -/
structure ReservedAddress where
  name : String
  selfLink : String
  address : String
  addressType : String
  status : String
  region : String
  networkTier : String
  deriving DecidableEq, Inhabited

/-- A firewall rule as the provider lists it. -/
structure ListedRule where
  name : String
  selfLink : String
  network : String
  direction : String
  priority : UInt32
  sourceRanges : List String
  targetTags : List String
  allowed : List AllowEntry
  disabled : Bool
  deriving DecidableEq, Inhabited

namespace Network

open Source in
/-- Read a network; every field may be missing. -/
def decode (value : Json) : Option Network := do
  let slots ← slots?
    ["name", "selfLink", "description", "autoCreateSubnetworks", "subnetworks"] value
  let name ← slots.fieldOr "name" "" Source.text?
  let selfLink ← slots.fieldOr "selfLink" "" Source.text?
  let description ← slots.fieldOr "description" "" Source.text?
  let autoCreateSubnetworks ← slots.fieldOr "autoCreateSubnetworks" false Source.flag?
  let subnetworks ← slots.fieldOr "subnetworks" [] texts
  return { name, selfLink, description, autoCreateSubnetworks, subnetworks }

/-- A network with every field. -/
def encode (n : Network) : Json :=
  .obj [("name", .str n.name), ("selfLink", .str n.selfLink),
    ("description", .str n.description),
    ("autoCreateSubnetworks", .bool n.autoCreateSubnetworks),
    ("subnetworks", Json.strs n.subnetworks)]

end Network

namespace Subnetwork

open Source in
/-- Read a subnetwork; every field may be missing. -/
def decode (value : Json) : Option Subnetwork := do
  let slots ← slots?
    ["name", "selfLink", "network", "region", "ipCidrRange", "stackType"] value
  let name ← slots.fieldOr "name" "" Source.text?
  let selfLink ← slots.fieldOr "selfLink" "" Source.text?
  let network ← slots.fieldOr "network" "" Source.text?
  let region ← slots.fieldOr "region" "" Source.text?
  let ipCidrRange ← slots.fieldOr "ipCidrRange" "" Source.text?
  let stackType ← slots.fieldOr "stackType" "" Source.text?
  return { name, selfLink, network, region, ipCidrRange, stackType }

/-- A subnetwork with every field. -/
def encode (s : Subnetwork) : Json :=
  .obj [("name", .str s.name), ("selfLink", .str s.selfLink), ("network", .str s.network),
    ("region", .str s.region), ("ipCidrRange", .str s.ipCidrRange),
    ("stackType", .str s.stackType)]

end Subnetwork

namespace ReservedAddress

open Source in
/-- Read a reserved address; every field may be missing. -/
def decode (value : Json) : Option ReservedAddress := do
  let slots ← slots?
    ["name", "selfLink", "address", "addressType", "status", "region", "networkTier"] value
  let name ← slots.fieldOr "name" "" Source.text?
  let selfLink ← slots.fieldOr "selfLink" "" Source.text?
  let address ← slots.fieldOr "address" "" Source.text?
  let addressType ← slots.fieldOr "addressType" "" Source.text?
  let status ← slots.fieldOr "status" "" Source.text?
  let region ← slots.fieldOr "region" "" Source.text?
  let networkTier ← slots.fieldOr "networkTier" "" Source.text?
  return { name, selfLink, address, addressType, status, region, networkTier }

/-- A reserved address with every field. -/
def encode (a : ReservedAddress) : Json :=
  .obj [("name", .str a.name), ("selfLink", .str a.selfLink), ("address", .str a.address),
    ("addressType", .str a.addressType), ("status", .str a.status), ("region", .str a.region),
    ("networkTier", .str a.networkTier)]

/-- Whether the address is free to be used. -/
def isAvailable (a : ReservedAddress) : Bool :=
  a.status == "RESERVED"

end ReservedAddress

namespace ListedRule

open Source in
/-- Read a firewall rule; every field may be missing. -/
def decode (value : Json) : Option ListedRule := do
  let slots ← slots?
    ["name", "selfLink", "network", "direction", "priority", "sourceRanges", "targetTags",
      "allowed", "disabled"] value
  let name ← slots.fieldOr "name" "" Source.text?
  let selfLink ← slots.fieldOr "selfLink" "" Source.text?
  let network ← slots.fieldOr "network" "" Source.text?
  let direction ← slots.fieldOr "direction" "" Source.text?
  let priority ← slots.fieldOr "priority" 0 nat32
  let sourceRanges ← slots.fieldOr "sourceRanges" [] texts
  let targetTags ← slots.fieldOr "targetTags" [] texts
  let allowed ← slots.fieldOr "allowed" [] (list AllowEntry.decode)
  let disabled ← slots.fieldOr "disabled" false Source.flag?
  return { name, selfLink, network, direction, priority, sourceRanges, targetTags, allowed,
           disabled }

/-- A firewall rule with every field. -/
def encode (r : ListedRule) : Json :=
  .obj [("name", .str r.name), ("selfLink", .str r.selfLink), ("network", .str r.network),
    ("direction", .str r.direction), ("priority", Json.int r.priority.toNat),
    ("sourceRanges", Json.strs r.sourceRanges), ("targetTags", Json.strs r.targetTags),
    ("allowed", .arr (r.allowed.map AllowEntry.encode)), ("disabled", .bool r.disabled)]

end ListedRule

end VmLaunch
