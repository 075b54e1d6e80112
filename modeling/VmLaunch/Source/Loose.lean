import VmLaunch.Json.Basic

/-!
# Loosely read values

Some parts of a document are taken in before it is known what they are expected to
say. A `Loose` value retains them as they look: numbers apart from texts, integers with
a minus sign apart from those without, and the keys of a mapping as values of any kind.
-/

namespace VmLaunch

/-- A value as it looks when nothing in particular is expected. -/
inductive Loose where
  | absent
  | flag (value : Bool)
  | natural (value : Nat)
  | signed (value : Int)
  | double (value : Binary64)
  | text (value : String)
  | list (items : List Loose)
  | mapping (members : List (Loose × Loose))
  deriving Inhabited

namespace Loose

/-- The look of a number. -/
def ofNumber : JsonNumber → Loose
  | .int (.ofNat n) => .natural n
  | .int n => .signed n
  | .float x => .double x

mutual

/-- The look of a JSON value. -/
def ofJson : Json → Loose
  | .null => .absent
  | .bool b => .flag b
  | .num n => ofNumber n
  | .str s => .text s
  | .arr items => .list (ofItems items)
  | .obj members => .mapping (ofMembers members)

/-- The looks of the items. -/
def ofItems : List Json → List Loose
  | [] => []
  | value :: rest => ofJson value :: ofItems rest

/-- The looks of the members. -/
def ofMembers : List (String × Json) → List (Loose × Loose)
  | [] => []
  | (key, value) :: rest => (.text key, ofJson value) :: ofMembers rest

end

/-- The text of a text value. -/
def text? : Loose → Option String
  | .text s => some s
  | _ => none

/-- The integer of an integer value. -/
def int? : Loose → Option Int
  | .natural n => some n
  | .signed n => some n
  | _ => none

/-- The natural number of an integer value. -/
def nat? : Loose → Option Nat
  | .natural n => some n
  | .signed n => if 0 ≤ n then some n.toNat else none
  | _ => none

/-- Whether a value says nothing: it is absent, or a mapping without members. -/
def isNothing : Loose → Bool
  | .absent => true
  | .mapping [] => true
  | _ => false

end Loose

end VmLaunch
