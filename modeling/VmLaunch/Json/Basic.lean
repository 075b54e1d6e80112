import VmLaunch.Decimal.Binary64

/-!
# JSON values

A `Json` retains integers apart from doubles, and the members of an object in
order. `Json.normal` is the form in which a value read from a body is kept:
members sorted by key, the last of several members of one key.
-/

namespace VmLaunch

/-- An integer, or a double for every other number. -/
inductive JsonNumber where
  | int (value : Int)
  | float (value : Binary64)
  deriving DecidableEq, Inhabited

/-- A JSON value. -/
inductive Json where
  | null
  | bool (value : Bool)
  | num (value : JsonNumber)
  | str (value : String)
  | arr (items : List Json)
  | obj (members : List (String × Json))
  deriving Inhabited

namespace Json

/-- An integer as a value. -/
def int (value : Int) : Json :=
  .num (.int value)

/-- A list of texts as a value. -/
def strs (values : List String) : Json :=
  .arr (values.map Json.str)

/-- An optional value, absent as `null`. -/
def optional {α : Type} (encode : α → Json) : Option α → Json
  | none => .null
  | some value => encode value

/-- The member that is present exactly when the value is. -/
def memberWhen {α : Type} (key : String) (encode : α → Json) : Option α → List (String × Json)
  | none => []
  | some value => [(key, encode value)]

/-- The member that is present exactly when the list is not empty. -/
def memberWhenAny {α : Type} (key : String) (encode : List α → Json) : List α → List (String × Json)
  | [] => []
  | first :: rest => [(key, encode (first :: rest))]

/-- The member of an object with the given key. -/
def get? (key : String) : Json → Option Json
  | .obj members => members.lookup key
  | _ => none

/-- The text of a string value. -/
def text? : Json → Option String
  | .str s => some s
  | _ => none

/-- The items of a list value. -/
def items? : Json → Option (List Json)
  | .arr items => some items
  | _ => none

/-- Whether a value is `null`. -/
def isNull : Json → Bool
  | .null => true
  | _ => false

/-- Place a member among members sorted by key, over an earlier one of that key. -/
def insertMember (key : String) (value : Json) : List (String × Json) → List (String × Json)
  | [] => [(key, value)]
  | (k, v) :: rest =>
    if key = k then (key, value) :: rest
    else if key < k then (key, value) :: (k, v) :: rest
    else (k, v) :: insertMember key value rest

/-- Members sorted by key; of several members of one key the last is kept. -/
def sortMembers (members : List (String × Json)) : List (String × Json) :=
  members.foldl (fun kept (key, value) => insertMember key value kept) []

mutual

/-- The value with the members of every object sorted and one for each key. -/
def normal : Json → Json
  | .arr items => .arr (normalItems items)
  | .obj members => .obj (sortMembers (normalMembers members))
  | value => value

/-- The items, each in normal form. -/
def normalItems : List Json → List Json
  | [] => []
  | value :: rest => normal value :: normalItems rest

/-- The members, each value in normal form. -/
def normalMembers : List (String × Json) → List (String × Json)
  | [] => []
  | (key, value) :: rest => (key, normal value) :: normalMembers rest

end

end Json

end VmLaunch
