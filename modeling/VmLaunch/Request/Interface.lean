import VmLaunch.Json.Basic
import VmLaunch.Reference
import VmLaunch.Spec.Check

/-!
# The network interface of a request

A machine has one interface. It is on the network and subnetwork that the spec
names, and on the default network when it names neither. An external address
needs an access configuration; a machine without one is not reachable.
-/

namespace VmLaunch

/-- How an external address reaches the machine. -/
structure NatAccess where
  natIp : Option String
  networkTier : Option String
  deriving DecidableEq, Inhabited

/-- The machine's interface. -/
structure NetworkInterface where
  network : Option String
  subnetwork : Option String
  networkIp : Option String
  nicType : Option String
  stackType : Option String
  access : Option NatAccess
  deriving DecidableEq, Inhabited

/-- The static addresses of a run after reserved names were looked up. -/
structure StaticAddresses where
  internal : Option String := none
  external : Option String := none
  deriving DecidableEq, Inhabited

namespace NatAccess

/-- The access configuration as a part of a request. -/
def encode (a : NatAccess) : Json :=
  .obj ([("name", .str "External NAT"), ("type", .str "ONE_TO_ONE_NAT")] ++
    Json.memberWhen "natIP" Json.str a.natIp ++
    Json.memberWhen "networkTier" Json.str a.networkTier)

end NatAccess

namespace NetworkInterface

/-- The interface as a part of a request. -/
def encode (i : NetworkInterface) : Json :=
  .obj (Json.memberWhen "network" Json.str i.network ++
    Json.memberWhen "subnetwork" Json.str i.subnetwork ++
    Json.memberWhen "networkIP" Json.str i.networkIp ++
    Json.memberWhen "nicType" Json.str i.nicType ++
    Json.memberWhen "stackType" Json.str i.stackType ++
    Json.memberWhen "accessConfigs" (fun access => .arr [NatAccess.encode access]) i.access)

/-- The network of a machine when its spec names none. -/
def defaultNetwork : String := "default"

/-- The path of the interface's network; none when the subnetwork alone decides. -/
def networkOf (config : Spec.Networking) (scope : Scope) : Option String :=
  match Text.given? config.network, Text.given? config.subnetwork with
  | some network, _ => some (networkPath network scope.project)
  | none, none => some (networkPath defaultNetwork scope.project)
  | none, some _ => none

/-- The internal address: the resolved one, or the text of the spec as a literal. -/
def internalOf (address : Spec.InternalAddress) (resolved : Option String) : Option String :=
  match address with
  | .ephemeral => none
  | .static text => some (resolved.getD (Text.trim text))

/-- Access to the external address, when there is to be one. -/
def accessOf (address : Spec.ExternalAddress) (resolved tier : Option String) : Option NatAccess :=
  match address with
  | .absent => none
  | .ephemeral => some ⟨none, tier⟩
  | .static text => some ⟨some (resolved.getD (Text.trim text)), tier⟩

/-- The interface of a spec. -/
def ofSpec (config : Spec.Networking) (scope : Scope) (addresses : StaticAddresses) :
    NetworkInterface where
  network := networkOf config scope
  subnetwork := (Text.given? config.subnetwork).map fun subnetwork =>
    subnetworkPath subnetwork scope.project scope.region
  networkIp := internalOf config.internalIp addresses.internal
  nicType := Text.given? config.nicType
  stackType := Text.given? config.stackType
  access := accessOf config.externalIp addresses.external (Text.given? config.networkTier)

end NetworkInterface

end VmLaunch
