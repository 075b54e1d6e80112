import VmLaunch.Proofs.Json.Members

/-!
# Parts of a value

`Within` relates a value to its parts at any depth, and `parts` follows a way from a value to the
parts in one place of it. A value is `Dense` when no part of it is `null` or empty.
-/

namespace VmLaunch.Json

/-- A value and its parts at any depth. -/
inductive Within (part : Json) : Json → Prop where
  | self : Within part part
  | item {items : List Json} {item : Json} (member : item ∈ items) (deeper : Within part item) :
      Within part (.arr items)
  | value {members : List (String × Json)} {key : String} {value : Json}
      (member : (key, value) ∈ members) (deeper : Within part value) : Within part (.obj members)

/-- No part is `null`, an empty list or an empty object. -/
def Dense (json : Json) : Prop :=
  ∀ part, Within part json → part ≠ .null ∧ part ≠ .arr [] ∧ part ≠ .obj []

/-- Members with dense values. -/
def DenseMembers (members : List (String × Json)) : Prop :=
  ∀ member ∈ members, member.2.Dense

/-- A step from a value to some of its parts. -/
inductive Hop where
  | member (key : String)
  | item (index : Nat)
  | items
  | keys

/-- The parts that a step leads to; keys are taken as texts. -/
def hop : Hop → Json → List Json
  | .member key, value => (value.get? key).toList
  | .item index, value => (value.items?.bind fun items => items[index]?).toList
  | .items, value => value.items?.getD []
  | .keys, .obj members => members.map fun member => .str member.1
  | .keys, _ => []

/-- The parts that several steps lead to. -/
def parts : List Hop → Json → List Json
  | [], value => [value]
  | step :: rest, value => (hop step value).flatMap (parts rest)

section Dense

variable {α : Type} {key : String}

/-- A text is dense: its only part is itself. -/
@[simp]
theorem dense_str (text : String) : (str text).Dense := by
  intro part within
  cases within
  simp

/-- A flag is dense. -/
@[simp]
theorem dense_bool (flag : Bool) : (bool flag).Dense := by
  intro part within
  cases within
  simp

/-- A number is dense. -/
@[simp]
theorem dense_int (value : Int) : (int value).Dense := by
  intro part within
  unfold int at within
  cases within
  simp

/-- An array is dense when it has items and each of them is. -/
theorem dense_arr {items : List Json} (filled : items ≠ []) (each : ∀ item ∈ items, item.Dense) :
    (arr items).Dense := by
  intro part within
  cases within with
  | self => simpa using filled
  | item member deeper => exact each _ member part deeper

/-- An object is dense when it has members and each of them is. -/
theorem dense_obj {members : List (String × Json)} (filled : members ≠ [])
    (each : DenseMembers members) : (obj members).Dense := by
  intro part within
  cases within with
  | self => simpa using filled
  | value member deeper => exact each _ member part deeper

/-- An array of texts is dense when there are any. -/
@[simp]
theorem dense_strs_iff {values : List String} : (strs values).Dense ↔ values ≠ [] := by
  refine ⟨?_, fun filled => dense_arr (by simpa using filled) (by simp)⟩
  rintro dense rfl
  exact (dense _ .self).2.1 rfl

/-- An object without members has no value that is not dense. -/
@[simp]
theorem denseMembers_nil : DenseMembers [] := by
  simp [DenseMembers]

/-- Members are dense when the first value and the rest are. -/
@[simp]
theorem denseMembers_cons_iff {value : Json} {rest : List (String × Json)} :
    DenseMembers ((key, value) :: rest) ↔ value.Dense ∧ DenseMembers rest :=
  List.forall_mem_cons

/-- Members in two parts are dense when both parts are. -/
@[simp]
theorem denseMembers_append_iff {front back : List (String × Json)} :
    DenseMembers (front ++ back) ↔ DenseMembers front ∧ DenseMembers back :=
  List.forall_mem_append

/-- A member that depends on a value is dense when the value is written densely. -/
@[simp]
theorem denseMembers_memberWhen_iff {encode : α → Json} {value : Option α} :
    DenseMembers (memberWhen key encode value) ↔ ∀ given ∈ value, (encode given).Dense := by
  cases value <;> simp [memberWhen]

/-- A member that depends on a list is dense when the list is written densely unless empty. -/
@[simp]
theorem denseMembers_memberWhenAny_iff {encode : List α → Json} {values : List α} :
    DenseMembers (memberWhenAny key encode values) ↔ (values ≠ [] → (encode values).Dense) := by
  cases values <;> simp [memberWhenAny]

end Dense

section Parts

variable {rest : List Hop}

@[simp]
theorem parts_nil (value : Json) : parts [] value = [value] :=
  rfl

@[simp]
theorem parts_member (key : String) (rest : List Hop) (value : Json) :
    parts (.member key :: rest) value = (value.get? key).toList.flatMap (parts rest) :=
  rfl

@[simp]
theorem parts_item_arr (index : Nat) (rest : List Hop) (items : List Json) :
    parts (.item index :: rest) (.arr items) = items[index]?.toList.flatMap (parts rest) :=
  rfl

@[simp]
theorem parts_items_arr (items : List Json) :
    parts (.items :: rest) (.arr items) = items.flatMap (parts rest) :=
  rfl

/-- No hop leads from each item to itself. -/
@[simp]
theorem flatMap_parts_nil (items : List Json) : items.flatMap (parts []) = items :=
  List.flatMap_singleton' items

/-- The items of an array of texts are these texts. -/
@[simp]
theorem parts_items_strs (values : List String) :
    parts [.items] (strs values) = values.map str := by
  simp [strs]

/-- The keys of an object are those of its members, in order. -/
@[simp]
theorem parts_keys_obj (members : List (String × Json)) :
    parts [.keys] (.obj members) = members.map fun member => .str member.1 := by
  simp [parts, hop, List.flatMap_singleton']

end Parts

end VmLaunch.Json
