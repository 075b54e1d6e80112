import VmLaunch.Source.Record
import VmLaunch.Text.Blank
import VmLaunch.Text.Casing
import VmLaunch.Text.Pieces

/-!
# Allow entries

What a firewall rule lets in is written `proto[:port][,proto[:port]...]`. The
entries are grouped by protocol in order of first appearance. A protocol that
stands anywhere without a port is opened on all ports, which a provider reads
from an entry without ports.
-/

namespace VmLaunch

/-- Why a firewall rule cannot be used. -/
inductive RuleError where
  | noProtocol (entry : String)
  | emptyPort (entry : String)
  | noName
  | noAllow (rule : String)
  | noSourceRange (rule : String)
  | noTargetTag (rule : String)
  deriving DecidableEq, Inhabited

/-- One protocol with its open ports; without ports every port is open. -/
structure AllowEntry where
  protocol : String
  ports : List String
  deriving DecidableEq, Inhabited

namespace AllowEntry

/-- The payload form. -/
def encode (entry : AllowEntry) : Json :=
  .obj (("IPProtocol", .str entry.protocol) ::
    Json.memberWhenAny "ports" Json.strs entry.ports)

open Source in
/-- An entry whose protocol must be given. -/
def decode {ν : Type} [Source ν] (tree : ν) : Option AllowEntry := do
  let slots ← slots? ["IPProtocol", "ports"] tree
  let protocol ← slots.field "IPProtocol" Source.text?
  let ports ← slots.fieldOr "ports" [] texts
  return { protocol, ports }

end AllowEntry

namespace Firewall

/-- The ports asked for so far: all of them, or those of a list. -/
inductive Ports where
  | all
  | only (ports : List String)
  deriving DecidableEq, Inhabited

/-- The ports after one more entry of their protocol. -/
def Ports.add (port : Option String) : Ports → Ports
  | .all => .all
  | .only ports =>
    match port with
    | none => .all
    | some port => .only (if ports.contains port then ports else ports ++ [port])

/-- The list of a payload, empty for all ports. -/
def Ports.toList : Ports → List String
  | .all => []
  | .only ports => ports

/-- Add an entry to the group of its protocol, or as a new group at the end. -/
def addEntry (protocol : String) (port : Option String) :
    List (String × Ports) → List (String × Ports)
  | [] => [(protocol, (Ports.only []).add port)]
  | (p, ports) :: rest =>
    if p = protocol then (p, ports.add port) :: rest
    else (p, ports) :: addEntry protocol port rest

/-- The protocol and port of one entry. -/
def readEntry (entry : String) : Except RuleError (String × Option String) :=
  let (protocol, port) :=
    match Text.cut? ':' entry with
    | some (before, after) => (Text.trim before, some (Text.trim after))
    | none => (entry, none)
  if protocol == "" then .error (.noProtocol entry)
  else if port == some "" then .error (.emptyPort entry)
  else .ok (Text.lower protocol, port)

/-- Add the entries to the groups in turn; the first bad entry decides. -/
def addEntries (groups : List (String × Ports)) :
    List String → Except RuleError (List (String × Ports))
  | [] => .ok groups
  | entry :: rest =>
    match readEntry entry with
    | .error cause => .error cause
    | .ok (protocol, port) => addEntries (addEntry protocol port groups) rest

/-- The members of a list with commas that are not blank, trimmed. -/
def commaList (text : String) : List String :=
  Text.filledAll (Text.pieces ',' text)

/-- The entries of an allow text, one for each protocol. -/
def parseAllow (text : String) : Except RuleError (List AllowEntry) :=
  (addEntries [] (commaList text)).map fun groups =>
    groups.map fun (protocol, ports) => ⟨protocol, ports.toList⟩

end Firewall

end VmLaunch
