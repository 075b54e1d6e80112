import VmLaunch.Source.Basic

/-!
# Reading records

`slots?` assigns the parts of a record to its field names: by key, where a key
that the record does not have is passed over and a field given twice is refused,
or by position, where too many parts are refused. A field that is missing takes
its default or, when it has none, makes the record unreadable.
-/

namespace VmLaunch.Source

variable {ν : Type} [Source ν]

/-- The parts of a record by field name. -/
abbrev Slots (ν : Type) := List (String × ν)

/-- Whether no key occurs twice. -/
def distinctKeys : Slots ν → Bool
  | [] => true
  | (key, _) :: rest => !(rest.any fun entry => entry.1 == key) && distinctKeys rest

/-- The entries of the known fields, when none of them is given twice. -/
def knownSlots? (names : List String) (entries : List (String × ν)) : Option (Slots ν) :=
  let known := entries.filter fun entry => names.contains entry.1
  if distinctKeys known then some known else none

/-- The name of the field that a key chooses, when there is such a field. -/
def fieldName? (names : List String) : FieldKey → Option String
  | .name text => some text
  | .index position => names[position]?

/-- Entries under the names of their fields; a position beyond the last field is passed
over. -/
def namedEntries (names : List String) (entries : List (FieldKey × ν)) : List (String × ν) :=
  entries.filterMap fun (key, tree) => (fieldName? names key).map fun name => (name, tree)

/-- The parts of a record with the given field names. -/
def slots? (names : List String) (tree : ν) : Option (Slots ν) :=
  match Source.fields? tree with
  | some (.keyed entries) => knownSlots? names (namedEntries names entries)
  | some (.listed items) => if items.length ≤ names.length then some (names.zip items) else none
  | none => none

/-- A field that may be missing. -/
def Slots.fieldOr {α : Type} (slots : Slots ν) (name : String) (absent : α)
    (read : ν → Option α) : Option α :=
  match slots.lookup name with
  | some tree => read tree
  | none => some absent

/-- A field that must be given. -/
def Slots.field {α : Type} (slots : Slots ν) (name : String) (read : ν → Option α) : Option α :=
  match slots.lookup name with
  | some tree => read tree
  | none => none

/-- A value that may be absent. -/
def optional {α : Type} (read : ν → Option α) (tree : ν) : Option (Option α) :=
  match Source.option? tree with
  | some (some present) => (read present).map some
  | some none => some none
  | none => none

/-- Every member of a list, when each can be read. -/
def readAll {α : Type} (read : ν → Option α) : List ν → Option (List α)
  | [] => some []
  | tree :: rest =>
    match read tree, readAll read rest with
    | some value, some values => some (value :: values)
    | _, _ => none

/-- A list of values of one kind. -/
def list {α : Type} (read : ν → Option α) (tree : ν) : Option (List α) :=
  match Source.items? tree with
  | some items => readAll read items
  | none => none

/-- A list of texts. -/
def texts (tree : ν) : Option (List String) :=
  list Source.text? tree

/-- An optional text. -/
def optionalText (tree : ν) : Option (Option String) :=
  optional Source.text? tree

/-- An integer that fits sixty-four signed bits. -/
def int64 (tree : ν) : Option Int64 :=
  match Source.int? tree with
  | some n =>
    if -0x8000000000000000 ≤ n ∧ n < 0x8000000000000000 then some (Int64.ofInt n) else none
  | none => none

/-- A natural number that fits thirty-two bits. -/
def nat32 (tree : ν) : Option UInt32 :=
  match Source.nat? tree with
  | some n => if n < 0x100000000 then some (UInt32.ofNat n) else none
  | none => none

/-- A natural number that fits sixty-four bits. -/
def nat64 (tree : ν) : Option UInt64 :=
  match Source.nat? tree with
  | some n => if n < 0x10000000000000000 then some (UInt64.ofNat n) else none
  | none => none

end VmLaunch.Source
