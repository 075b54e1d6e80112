import VmLaunch.Text.Blank
import VmLaunch.Text.Pieces

/-!
# Properties text

Properties stand on lines of the form `name = value` below a heading in square
brackets. Blank lines and lines that begin with a number sign or a semicolon say
nothing, and a property without a value is as good as absent.
-/

namespace VmLaunch.Properties

/-- What one line says. -/
inductive Line where
  | nothing
  | heading (text : String)
  | property (name value : String)
  deriving DecidableEq, Inhabited

/-- Whether a trimmed line says nothing whatever stands in it. -/
def isRemark (line : String) : Bool :=
  match line.toList with
  | [] => true
  | c :: _ => c == '#' || c == ';'

/-- Read a line. -/
def Line.of (text : String) : Line :=
  let line := Text.trim text
  if isRemark line then .nothing
  else if Text.startsWith line "[" then .heading line
  else
    match Text.cut? '=' line with
    | some (name, value) => .property (Text.trim name) (Text.trim value)
    | none => .nothing

/-- The heading of a section. -/
def headingOf (name : String) : String :=
  "[" ++ name ++ "]"

/-- The first value of a key below a heading. `inside` tells whether the lines
stand below it. -/
def search (heading key : String) : Bool → List Line → Option String
  | _, [] => none
  | inside, line :: rest =>
    match line with
    | .nothing => search heading key inside rest
    | .heading text => search heading key (text == heading) rest
    | .property name value =>
      if inside && name == key && value != "" then some value else search heading key inside rest

/-- The value of a key in a section of a text. -/
def value? (text name key : String) : Option String :=
  search (headingOf name) key false ((Text.lines text).map Line.of)

end VmLaunch.Properties
