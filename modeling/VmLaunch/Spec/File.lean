import VmLaunch.Host
import VmLaunch.Spec.Decode
import VmLaunch.Yaml.Document
import VmLaunch.Yaml.Value

/-!
# Spec files

A spec is written in YAML when its file has the extension `yaml` or `yml`, and in
JSON otherwise.
-/

namespace VmLaunch

/-- How a spec is written. -/
inductive SpecFormat where
  | json
  | yaml
  deriving DecidableEq, Inhabited

/-- Why a file gives no spec. -/
inductive SpecFileError where
  | unreadable
  | malformed (format : SpecFormat)
  deriving DecidableEq, Inhabited

/-- What follows the last dot of a file name; a dot at its head does not count. -/
def extension? (path : String) : Option String :=
  match Text.cutLast? '.' (Text.lastPiece '/' path) with
  | some ("", _) => none
  | some (_, extension) => some extension
  | none => none

/-- The format that the name of a file tells. -/
def SpecFormat.ofPath (path : String) : SpecFormat :=
  match extension? path with
  | some "yaml" => .yaml
  | some "yml" => .yaml
  | _ => .json

namespace MachineSpec

/-- The spec of a text. -/
def ofText? : SpecFormat → String → Option MachineSpec
  | .json, text => (Written.parse? text).bind decode
  | .yaml, text => (Yaml.parse? text).bind decode

/-- The spec of a file. -/
def load (host : Host) (path : String) : Except SpecFileError MachineSpec :=
  match host.read? path with
  | none => .error .unreadable
  | some text =>
    match ofText? (.ofPath path) text with
    | some spec => .ok spec
    | none => .error (.malformed (.ofPath path))

end MachineSpec

end VmLaunch
