import VmLaunch.Json.Printer
import VmLaunch.Provider.Work
import VmLaunch.Reference
import VmLaunch.Spec.Check

/-!
# The created machine

An `InstanceSummary` is what a run reports about the machine it created. It is
projected from whatever the provider says about the machine: a part that is
missing or of another type is empty, and only the first interface is looked at.
-/

namespace VmLaunch

/-- What is reported about a machine. -/
structure InstanceSummary where
  id : String
  selfLink : String
  status : String
  zone : String
  name : String
  machineType : String
  internalIp : String
  externalIp : Option String
  deriving DecidableEq, Inhabited

namespace InstanceSummary

/-- The text of a member, empty when there is none. -/
def textOf (value : Json) (key : String) : String :=
  ((value.get? key).bind Json.text?).getD ""

/-- The items of a member, none when it is not a list. -/
def itemsOf (value : Json) (key : String) : List Json :=
  ((value.get? key).bind Json.items?).getD []

/-- The id: a text as it is, a number in its shortest text. -/
def idOf (instance_ : Json) : String :=
  match instance_.get? "id" with
  | some (.str s) => s
  | some (.num n) => Json.numberText n
  | _ => ""

/-- The first address of an access configuration that is not empty. -/
def natOf? (interface : Json) : Option String :=
  ((itemsOf interface "accessConfigs").map fun access => textOf access "natIP").find? (· != "")

/-- Project what the provider says about a machine. -/
def project (instance_ : Json) (fallbackZone : String) : InstanceSummary :=
  let zone := shortName (textOf instance_ "zone")
  let interface := (itemsOf instance_ "networkInterfaces").head?
  { id := idOf instance_
    selfLink := textOf instance_ "selfLink"
    status := textOf instance_ "status"
    zone := if zone == "" then fallbackZone else zone
    name := textOf instance_ "name"
    machineType := shortName (textOf instance_ "machineType")
    internalIp := (interface.map fun i => textOf i "networkIP").getD ""
    externalIp := interface.bind natOf? }

/-- The summary with its fields in order; the external address only when there is one. -/
def encode (s : InstanceSummary) : Json :=
  .obj ([("id", .str s.id), ("selfLink", .str s.selfLink), ("status", .str s.status),
      ("zone", .str s.zone), ("name", .str s.name), ("machineType", .str s.machineType),
      ("internalIp", .str s.internalIp)] ++
    Json.memberWhen "externalIp" Json.str s.externalIp)

/-- The summary as a map from names to texts, sorted by name. -/
def toMap (s : InstanceSummary) : List (String × String) :=
  (match s.externalIp with
    | some ip => [("externalIp", ip)]
    | none => []) ++
  [("id", s.id), ("internalIp", s.internalIp), ("machineType", s.machineType),
    ("name", s.name), ("selfLink", s.selfLink), ("status", s.status), ("zone", s.zone)]

/-- A map from names to texts as JSON. -/
def encodeMap (entries : List (String × String)) : Json :=
  .obj (entries.map fun (key, value) => (key, .str value))

/-- Read a machine back after it was created. -/
def fetch (env : Environment) (scope : Scope) (name : String) : Work World Json :=
  env.callOr (.get (zoneParent scope.project scope.zone "instances" ++ "/" ++ name))
    (.unreadableInstance name)

end InstanceSummary

end VmLaunch
