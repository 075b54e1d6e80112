import VmLaunch.Json.Printer
import VmLaunch.Json.Written

/-!
# Layouts of JSON text

The one-line text of a value and its text over several lines differ only in the blanks between
the parts. `Layout` holds these blanks, so that what is true of both texts is shown once. `Plain`
values have no number but integers that a text retains, and are not nested without bound.
-/

namespace VmLaunch

namespace Json

/-- A value whose text says all of it: its numbers are integers of sixty-four bits, with or without
sign, and lists and objects stand within at most `depth` of their kind. -/
inductive Plain : Nat → Json → Prop where
  | null {depth : Nat} : Plain depth .null
  | bool {depth : Nat} (flag : Bool) : Plain depth (.bool flag)
  | str {depth : Nat} (text : String) : Plain depth (.str text)
  | int {depth : Nat} {n : Int} (low : -0x8000000000000000 ≤ n) (high : n < 0x10000000000000000) :
      Plain depth (.int n)
  | arr {depth : Nat} {items : List Json} (each : ∀ item ∈ items, Plain depth item) :
      Plain (depth + 1) (.arr items)
  | obj {depth : Nat} {members : List (String × Json)}
      (each : ∀ member ∈ members, Plain depth member.2) : Plain (depth + 1) (.obj members)

section Plain

variable {depth : Nat}

/-- A flag has no parts, so it is plain at any depth. -/
@[simp]
theorem plain_bool (flag : Bool) : Plain depth (.bool flag) :=
  .bool flag

/-- A text has no parts, so it is plain at any depth. -/
@[simp]
theorem plain_str (text : String) : Plain depth (.str text) :=
  .str text

/-- An integer of 64 bits with a sign is in the range of plain numbers. -/
@[simp]
theorem plain_int64 (n : Int64) : Plain depth (int n.toInt) := by
  have low := n.le_toInt
  have high := n.toInt_lt
  exact .int (by omega) (by omega)

/-- A number of 32 bits is in the range of plain numbers. -/
@[simp]
theorem plain_nat32 (n : UInt32) : Plain depth (int n.toNat) := by
  have high : n.toNat < 0x100000000 := n.toNat_lt
  exact .int (by omega) (by omega)

/-- A number of 64 bits is in the range of plain numbers. -/
@[simp]
theorem plain_nat64 (n : UInt64) : Plain depth (int n.toNat) := by
  have high : n.toNat < 0x10000000000000000 := n.toNat_lt
  exact .int (by omega) (by omega)

/-- An array is plain one level above its items. -/
@[simp]
theorem plain_arr_iff {items : List Json} :
    Plain (depth + 1) (.arr items) ↔ ∀ item ∈ items, Plain depth item := by
  refine ⟨fun plain => ?_, .arr⟩
  cases plain with
  | arr each => exact each

/-- An object is plain one level above the values of its members. -/
@[simp]
theorem plain_obj_iff {members : List (String × Json)} :
    Plain (depth + 1) (.obj members) ↔ ∀ member ∈ members, Plain depth member.2 := by
  refine ⟨fun plain => ?_, .obj⟩
  cases plain with
  | obj each => exact each

/-- An array of texts has one level. -/
@[simp]
theorem plain_strs (values : List String) : Plain (depth + 1) (strs values) :=
  .arr (by simp)

/-- An optional value is as plain as the value: where there is none, null stands. -/
theorem plain_optional {α : Type} {encode : α → Json} (plain : ∀ value, Plain depth (encode value))
    (value : Option α) : Plain depth (optional encode value) := by
  cases value with
  | none => exact .null
  | some value => exact plain value

end Plain

/-- What stands between the parts of a text: in front of an item, a member or a closing bracket at
a level, and behind a colon. -/
structure Layout where
  line : Nat → List Char
  gap : List Char
  line_blank : ∀ level, ∀ c ∈ line level, Written.isSpace c = true
  gap_blank : ∀ c ∈ gap, Written.isSpace c = true

namespace Layout

/-- The characters of a string between quotes. -/
def quoted (s : String) : List Char :=
  '"' :: s.toList.flatMap escapeChar ++ ['"']

mutual

/-- The characters of a value within `level` others. -/
def chars (layout : Layout) (level : Nat) : Json → List Char
  | .arr [] => ['[', ']']
  | .arr items => '[' :: layout.items (level + 1) items ++ layout.line level ++ [']']
  | .obj [] => ['\x7b', '\x7d']
  | .obj members => '\x7b' :: layout.members (level + 1) members ++ layout.line level ++ ['\x7d']
  | leaf => (leafText leaf).toList

/-- The characters of the items of a list. -/
def items (layout : Layout) (level : Nat) : List Json → List Char
  | [] => []
  | [value] => layout.line level ++ layout.chars level value
  | value :: rest =>
    layout.line level ++ layout.chars level value ++ ',' :: layout.items level rest

/-- The characters of the members of an object. -/
def members (layout : Layout) (level : Nat) : List (String × Json) → List Char
  | [] => []
  | [(key, value)] =>
    layout.line level ++ quoted key ++ ':' :: (layout.gap ++ layout.chars level value)
  | (key, value) :: rest =>
    layout.line level ++ quoted key ++ ':' :: (layout.gap ++ layout.chars level value) ++
      ',' :: layout.members level rest

end

section Pieces

variable (layout : Layout) (level : Nat)

/-- An array with items is written between brackets, its items a level deeper. -/
theorem chars_arr {values : List Json} (filled : values ≠ []) :
    layout.chars level (.arr values) =
      '[' :: (layout.items (level + 1) values ++ (layout.line level ++ [']'])) := by
  rw [chars, List.append_assoc]
  · rfl
  · exact filled

/-- An object with members is written between braces, its members a level deeper. -/
theorem chars_obj {entries : List (String × Json)} (filled : entries ≠ []) :
    layout.chars level (.obj entries) =
      '\x7b' :: (layout.members (level + 1) entries ++ (layout.line level ++ ['\x7d'])) := by
  rw [chars, List.append_assoc]
  · rfl
  · exact filled

/-- The last item has no comma behind it. -/
theorem items_singleton (value : Json) :
    layout.items level [value] = layout.line level ++ layout.chars level value := by
  rw [items]

/-- Between items stands a comma. -/
theorem items_cons {rest : List Json} (filled : rest ≠ []) (value : Json) :
    layout.items level (value :: rest) =
      layout.line level ++ (layout.chars level value ++ ',' :: layout.items level rest) := by
  rw [items, List.append_assoc]
  exact filled

/-- The last member has no comma behind it. -/
theorem members_singleton (key : String) (value : Json) :
    layout.members level [(key, value)] =
      layout.line level ++ (quoted key ++ ':' :: (layout.gap ++ layout.chars level value)) := by
  rw [members, List.append_assoc]

/-- Between members stands a comma. -/
theorem members_cons {rest : List (String × Json)} (filled : rest ≠ []) (key : String)
    (value : Json) :
    layout.members level ((key, value) :: rest) =
      layout.line level ++ (quoted key ++ ':' :: (layout.gap ++ (layout.chars level value ++
        ',' :: layout.members level rest))) := by
  rw [members]
  · simp
  · exact filled

end Pieces

/-- Everything on one line. -/
def compact : Layout where
  line _ := []
  gap := []
  line_blank := by simp
  gap_blank := by simp

/-- One item or member a line. -/
def indented : Layout where
  line level := (lineAt level).toList
  gap := [' ']
  line_blank := by
    intro level c member
    rw [lineAt, String.toList_ofList, List.mem_cons] at member
    obtain rfl | indent := member
    · rfl
    · rw [List.eq_of_mem_replicate indent]
      rfl
  gap_blank := by simp [Written.isSpace]

mutual

/-- What is rendered is the compact layout, at whatever level it begins. -/
theorem toList_render (value : Json) (level : Nat) :
    (render value).toList = compact.chars level value := by
  cases value with
  | arr items =>
    cases items with
    | nil => rfl
    | cons first rest =>
      simp [render, chars, toList_renderItems (first :: rest) (level + 1), compact]
  | obj members =>
    cases members with
    | nil => rfl
    | cons first rest =>
      simp [render, chars, toList_renderMembers (first :: rest) (level + 1), compact]
  | null | bool | num | str => rfl

/-- Rendered items are those of the compact layout. -/
theorem toList_renderItems (values : List Json) (level : Nat) :
    (renderItems values).toList = compact.items level values := by
  match values with
  | [] => rfl
  | [value] => simp [renderItems, items, toList_render value level, compact]
  | value :: next :: rest =>
    simp [renderItems, items, toList_render value level, toList_renderItems (next :: rest) level,
      compact]

/-- Rendered members are those of the compact layout. -/
theorem toList_renderMembers (entries : List (String × Json)) (level : Nat) :
    (renderMembers entries).toList = compact.members level entries := by
  match entries with
  | [] => rfl
  | [(key, value)] =>
    simp [renderMembers, members, toList_render value level, compact, quote, quoted]
  | (key, value) :: next :: rest =>
    simp [renderMembers, members, toList_render value level,
      toList_renderMembers (next :: rest) level, compact, quote, quoted]

end

mutual

/-- What is printed for a reader is the indented layout. -/
theorem toList_prettyAt (value : Json) (level : Nat) :
    (prettyAt level value).toList = indented.chars level value := by
  cases value with
  | arr items =>
    cases items with
    | nil => simp [prettyAt, chars]
    | cons first rest =>
      simp [prettyAt, chars, toList_prettyItems (first :: rest) (level + 1), indented]
  | obj members =>
    cases members with
    | nil => simp [prettyAt, chars]
    | cons first rest =>
      simp [prettyAt, chars, toList_prettyMembers (first :: rest) (level + 1), indented]
  | null | bool | num | str => rfl

/-- Items printed for a reader are those of the indented layout. -/
theorem toList_prettyItems (values : List Json) (level : Nat) :
    (prettyItems level values).toList = indented.items level values := by
  match values with
  | [] => rfl
  | [value] => simp [prettyItems, items, toList_prettyAt value level, indented]
  | value :: next :: rest =>
    simp [prettyItems, items, toList_prettyAt value level,
      toList_prettyItems (next :: rest) level, indented]

/-- Members printed for a reader are those of the indented layout. -/
theorem toList_prettyMembers (entries : List (String × Json)) (level : Nat) :
    (prettyMembers level entries).toList = indented.members level entries := by
  match entries with
  | [] => rfl
  | [(key, value)] =>
    simp [prettyMembers, members, toList_prettyAt value level, indented, quote, quoted]
  | (key, value) :: next :: rest =>
    simp [prettyMembers, members, toList_prettyAt value level,
      toList_prettyMembers (next :: rest) level, indented, quote, quoted]

end

end Layout

end Json

end VmLaunch
