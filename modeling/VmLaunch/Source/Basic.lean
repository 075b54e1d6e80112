import VmLaunch.Json.Written
import VmLaunch.Source.Loose

/-!
# Readable trees

A reader of specs, settings and catalog entries asks a tree for what it expects:
a text, an integer, a list, a record. `Source` names these questions, so one
reader serves JSON values and the trees of JSON and YAML text, each of which
answers them by its own rules.
-/

namespace VmLaunch

/-- What a field of a record, or one of several alternatives, is chosen by: its name
or, where keys may be numbers, its position. -/
inductive FieldKey where
  | name (text : String)
  | index (position : Nat)
  deriving DecidableEq, Inhabited

/-- The fields of a record, given by key or by position. -/
inductive Fields (ν : Type) where
  | keyed (entries : List (FieldKey × ν))
  | listed (items : List ν)

/-- The entries of a mapping, with their keys as they look, or the items of a list. -/
inductive Collection (ν : Type) where
  | mapping (entries : List (Loose × ν))
  | list (items : List ν)

/-- What a reader can ask of a tree. -/
class Source (ν : Type) where
  /-- The tree of a value that may be absent. -/
  option? : ν → Option (Option ν)
  text? : ν → Option String
  flag? : ν → Option Bool
  int? : ν → Option Int
  nat? : ν → Option Nat
  /-- Which of several alternatives that carry no data. -/
  choice? : ν → Option FieldKey
  items? : ν → Option (List ν)
  /-- The entries of a mapping, in order and with repetitions. -/
  members? : ν → Option (List (String × ν))
  /-- The fields of a record. -/
  fields? : ν → Option (Fields ν)
  /-- The parts of a list or mapping when nothing in particular is expected of it. -/
  collection? : ν → Option (Collection ν)
  /-- The value that the tree has when nothing in particular is expected of it. -/
  loose? : ν → Option Loose

/-- Entries under other keys, when every key has one. -/
def rekey? {α β ν : Type} (key? : α → Option β) : List (α × ν) → Option (List (β × ν))
  | [] => some []
  | (key, tree) :: rest =>
    match key? key, rekey? key? rest with
    | some key, some entries => some ((key, tree) :: entries)
    | _, _ => none

/-- Entries under the names of fields. -/
def namedFields {ν : Type} (entries : List (String × ν)) : Fields ν :=
  .keyed (entries.map fun (name, tree) => (.name name, tree))

/-- Entries under keys that are texts. -/
def textEntries {ν : Type} (entries : List (String × ν)) : Collection ν :=
  .mapping (entries.map fun (name, tree) => (.text name, tree))

namespace Json

/-- The natural number of an integer value. -/
def nat? : Json → Option Nat
  | .num (.int (.ofNat n)) => some n
  | _ => none

/-- The integer of an integer value. -/
def int? : Json → Option Int
  | .num (.int n) => some n
  | _ => none

/-- The truth value of a flag. -/
def flag? : Json → Option Bool
  | .bool b => some b
  | _ => none

/-- An alternative: a string, or the only key of an object over `null`. -/
def choice? : Json → Option FieldKey
  | .str s => some (.name s)
  | .obj [(key, .null)] => some (.name key)
  | _ => none

/-- The members of an object. -/
def members? : Json → Option (List (String × Json))
  | .obj members => some members
  | _ => none

/-- The fields of a record: an object by name, a list by position. -/
def fields? : Json → Option (Fields Json)
  | .obj members => some (namedFields members)
  | .arr items => some (.listed items)
  | _ => none

/-- The parts of a list or object. -/
def collection? : Json → Option (Collection Json)
  | .obj members => some (textEntries members)
  | .arr items => some (.list items)
  | _ => none

instance : Source Json where
  option? value := some (if value.isNull then none else some value)
  text? := Json.text?
  flag? := Json.flag?
  int? := Json.int?
  nat? := Json.nat?
  choice? := Json.choice?
  items? := Json.items?
  members? := Json.members?
  fields? := Json.fields?
  collection? := Json.collection?
  loose? value := some (Loose.ofJson value)

end Json

namespace Written

instance : Source Written where
  option?
    | .null => some none
    | tree => some (some tree)
  text?
    | .str s => some s
    | _ => none
  flag?
    | .bool b => some b
    | _ => none
  int?
    | .num (.int n) => some n
    | _ => none
  nat?
    | .num (.int (.ofNat n)) => some n
    | _ => none
  choice?
    | .str s => some (.name s)
    | .obj [(key, .null)] => some (.name key)
    | _ => none
  items?
    | .arr items => some items
    | _ => none
  members?
    | .obj members => some members
    | _ => none
  fields?
    | .obj members => some (namedFields members)
    | .arr items => some (.listed items)
    | _ => none
  collection?
    | .obj members => some (textEntries members)
    | .arr items => some (.list items)
    | _ => none
  loose? tree := tree.value?.map Loose.ofJson

end Written

namespace Loose

/-- The field that a key stands for: a text names it, a number without a sign is its
position. -/
def fieldKey? : Loose → Option FieldKey
  | .text s => some (.name s)
  | .natural n => some (.index n)
  | _ => none

/-- An alternative: a text, or the only key of a mapping over nothing. -/
def choice? : Loose → Option FieldKey
  | .text s => some (.name s)
  | .mapping [(key, value)] => if value.isNothing then key.fieldKey? else none
  | _ => none

/-- The fields of a record: a mapping by key, a list by position. -/
def fields? : Loose → Option (Fields Loose)
  | .mapping members => (rekey? fieldKey? members).map Fields.keyed
  | .list items => some (.listed items)
  | _ => none

instance : Source Loose where
  option?
    | .absent => some none
    | value => some (some value)
  text? := Loose.text?
  flag?
    | .flag b => some b
    | _ => none
  int? := Loose.int?
  nat? := Loose.nat?
  choice? := Loose.choice?
  items?
    | .list items => some items
    | _ => none
  members?
    | .mapping members => rekey? Loose.text? members
    | _ => none
  fields? := Loose.fields?
  collection?
    | .mapping members => some (.mapping members)
    | .list items => some (.list items)
    | _ => none
  loose? := some

end Loose

end VmLaunch
