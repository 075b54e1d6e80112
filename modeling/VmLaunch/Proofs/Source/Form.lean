import VmLaunch.Proofs.Json.Order
import VmLaunch.Proofs.Json.Reading
import VmLaunch.Proofs.Source.Entries

/-!
# Forms of a value

A reader meets a value as it was made, with its members sorted, or as the tree of a text. A `Form`
is what these have in common: the members of objects in some order, and a kind of trees that
answers as the values do. What a reader finds in one form of a value it finds in all of them.
-/

namespace VmLaunch

namespace Source

variable {ν : Type} [Source ν]

/-- Trees that answer a reader as the values do that they are made from. -/
structure Answers (embed : Json → ν) : Prop where
  option? (value : Json) :
    Source.option? (embed value) = some (if value.isNull then none else some (embed value))
  text? (text : String) : Source.text? (embed (.str text)) = some text
  flag? (flag : Bool) : Source.flag? (embed (.bool flag)) = some flag
  int? (n : Int) : Source.int? (embed (Json.int n)) = some n
  nat? (n : Nat) : Source.nat? (embed (Json.int n)) = some n
  choice? (word : String) : Source.choice? (embed (.str word)) = some (.name word)
  items? (items : List Json) : Source.items? (embed (.arr items)) = some (items.map embed)
  members? (members : List (String × Json)) :
    Source.members? (embed (.obj members)) = some (members.map (Prod.map id embed))
  fields? (members : List (String × Json)) :
    Source.fields? (embed (.obj members)) = some (namedFields (members.map (Prod.map id embed)))
  collection? (members : List (String × Json)) :
    Source.collection? (embed (.obj members)) =
      some (textEntries (members.map (Prod.map id embed)))
  loose? (value : Json) : Source.loose? (embed value) = some (Loose.ofJson value)

/-- Values answer for themselves. -/
theorem answers_id : Answers (id : Json → Json) where
  option? _ := rfl
  text? _ := rfl
  flag? _ := rfl
  int? _ := rfl
  nat? _ := rfl
  choice? _ := rfl
  items? items := by simp [Source.items?, Json.items?]
  members? members := by simp [Source.members?, Json.members?]
  fields? members := by simp [Source.fields?, Json.fields?]
  collection? members := by simp [Source.collection?, Json.collection?]
  loose? _ := rfl

end Source

namespace Written

mutual

/-- The tree of a value has the value. -/
@[simp]
theorem value?_ofJson (value : Json) : (ofJson value).value? = some value := by
  cases value with
  | arr items => simp [ofJson, value?, valueItems?_ofItems items]
  | obj members => simp [ofJson, value?, valueMembers?_ofEntries members]
  | null | bool | num | str => rfl

/-- Written items are all values. -/
theorem valueItems?_ofItems (items : List Json) : valueItems? (ofItems items) = some items := by
  match items with
  | [] => rfl
  | first :: rest => simp [ofItems, valueItems?, value?_ofJson first, valueItems?_ofItems rest]

/-- Written members all have values. -/
theorem valueMembers?_ofEntries (members : List (String × Json)) :
    valueMembers? (ofEntries members) = some members := by
  match members with
  | [] => rfl
  | (key, value) :: rest =>
    simp [ofEntries, valueMembers?, value?_ofJson value, valueMembers?_ofEntries rest]

end

open Source in
/-- A written value answers as the value that it was written from. -/
theorem answers_ofJson : Answers ofJson where
  option? value := by cases value <;> rfl
  text? _ := rfl
  flag? _ := rfl
  int? _ := rfl
  nat? _ := rfl
  choice? _ := rfl
  items? items := congrArg some (ofItems_eq_map items)
  members? members := congrArg some (ofEntries_eq_map members)
  fields? members := congrArg (some ∘ namedFields) (ofEntries_eq_map members)
  collection? members := congrArg (some ∘ textEntries) (ofEntries_eq_map members)
  loose? value := by
    have present : (ofJson value).value?.map Loose.ofJson = some (Loose.ofJson value) := by simp
    exact present

end Written

namespace Loose

/-- Items are loosened one by one. -/
theorem ofItems_eq_map (items : List Json) : ofItems items = items.map ofJson := by
  induction items with
  | nil => rfl
  | cons first rest ih => rw [ofItems, ih, List.map_cons]

/-- The looks of members, under their keys as texts. -/
def named (members : List (String × Loose)) : List (Loose × Loose) :=
  members.map (Prod.map text id)

/-- Members are loosened one by one, under keys that are texts. -/
theorem ofMembers_eq_named (members : List (String × Json)) :
    ofMembers members = named (members.map (Prod.map id ofJson)) := by
  induction members with
  | nil => rfl
  | cons first rest ih =>
    rw [ofMembers, ih]
    rfl

/-- Keys that are texts are all known. -/
theorem rekey?_named {β : Type} (key? : Loose → Option β) (key : String → β)
    (known : ∀ name, key? (text name) = some (key name)) (members : List (String × Loose)) :
    rekey? key? (named members) = some (members.map (Prod.map key id)) := by
  induction members with
  | nil => rfl
  | cons first rest ih =>
    obtain ⟨name, look⟩ := first
    rw [named] at ih
    simp [named, rekey?, known, ih]

/-- A mapping whose keys are texts has fields under these keys. -/
theorem fields?_named (members : List (String × Loose)) :
    Source.fields? (mapping (named members)) = some (namedFields members) := by
  have rekeyed : rekey? fieldKey? (named members) = some (members.map (Prod.map .name id)) :=
    rekey?_named fieldKey? .name (fun _ => rfl) members
  exact congrArg (Option.map Fields.keyed) rekeyed

open Source in
/-- A loose value answers as the value that it was made from. -/
theorem answers_ofJson : Answers ofJson where
  option? value := by
    cases value with
    | num number => cases number with
      | int n => cases n <;> rfl
      | float x => rfl
    | null | bool | str | arr | obj => rfl
  text? _ := rfl
  flag? _ := rfl
  int? n := by cases n <;> rfl
  nat? _ := rfl
  choice? _ := rfl
  items? items := congrArg some (ofItems_eq_map items)
  members? members := by
    have read : Source.members? (ofJson (.obj members)) =
        rekey? Loose.text? (named (members.map (Prod.map id ofJson))) := by
      rw [← ofMembers_eq_named]
      rfl
    rw [read, rekey?_named Loose.text? id fun _ => rfl]
    simp
  fields? members := by
    rw [← fields?_named, ← ofMembers_eq_named]
    rfl
  collection? members := by
    have same : Source.collection? (ofJson (.obj members)) =
        some (.mapping (ofMembers members)) := rfl
    rw [same, ofMembers_eq_named]
    rfl
  loose? _ := rfl

end Loose

namespace Source

variable {ν : Type} [Source ν] {α : Type}

/-- A form in which readers meet values: the members of objects in some order, and trees that
answer as the values do. -/
structure Form (ν : Type) [Source ν] where
  order : Json → Json
  embed : Json → ν
  rearranges : Json.Rearranges order
  answers : Answers embed

namespace Form

/-- A value as it was made. -/
def value : Form Json := ⟨id, id, Json.rearranges_id, answers_id⟩

/-- A value with its members sorted. -/
def sorted : Form Json := ⟨Json.normal, id, Json.rearranges_normal, answers_id⟩

/-- The tree of the text of a value. -/
def written : Form Written := ⟨id, Written.ofJson, Json.rearranges_id, Written.answers_ofJson⟩

/-- The look of a value in a form. -/
def loose (form : Form ν) : Form Loose :=
  ⟨form.order, Loose.ofJson, form.rearranges, Loose.answers_ofJson⟩

/-- A value in a form. -/
def tree (form : Form ν) (value : Json) : ν :=
  form.embed (form.order value)

/-- Members with their values in a form. -/
def branches (form : Form ν) (members : List (String × Json)) : List (String × ν) :=
  members.map (Prod.map id form.tree)

section Leaves

variable (form : Form ν)

/-- Of the values in a form null alone is none. -/
@[simp]
theorem option?_tree (value : Json) :
    Source.option? (form.tree value) =
      some (if value.isNull then none else some (form.tree value)) := by
  rw [tree, form.answers.option?, form.rearranges.isNull]

/-- A text is read back in any form. -/
@[simp]
theorem text?_tree (text : String) : Source.text? (form.tree (.str text)) = some text := by
  rw [tree, form.rearranges.str, form.answers.text?]

/-- A flag is read back in any form. -/
@[simp]
theorem flag?_tree (flag : Bool) : Source.flag? (form.tree (.bool flag)) = some flag := by
  rw [tree, form.rearranges.bool, form.answers.flag?]

/-- An integer is read back in any form. -/
@[simp]
theorem int?_tree (n : Int) : Source.int? (form.tree (Json.int n)) = some n := by
  rw [tree, Json.int, form.rearranges.num]
  exact form.answers.int? n

/-- A number is read back in any form. -/
@[simp]
theorem nat?_tree (n : Nat) : Source.nat? (form.tree (Json.int n)) = some n := by
  rw [tree, Json.int, form.rearranges.num]
  exact form.answers.nat? n

/-- A word is read back as a choice without more to it. -/
@[simp]
theorem choice?_tree (word : String) :
    Source.choice? (form.tree (.str word)) = some (.name word) := by
  rw [tree, form.rearranges.str, form.answers.choice?]

/-- The items of an array are read back in any form. -/
@[simp]
theorem items?_tree (items : List Json) :
    Source.items? (form.tree (.arr items)) = some (items.map form.tree) := by
  rw [tree, form.rearranges.arr, form.answers.items?, List.map_map]
  rfl

end Leaves

/-- A form keeps the keys of members. -/
theorem keys_branches (form : Form ν) (members : List (String × Json)) :
    (form.branches members).map Prod.fst = members.map Prod.fst :=
  keys_map form.tree members

/-- Members in the order of a form, with their values in it. -/
theorem perm_branches (form : Form ν) {members ordered : List (String × Json)}
    (perm : ordered.Perm (members.map (Prod.map id form.order))) :
    (ordered.map (Prod.map id form.embed)).Perm (form.branches members) := by
  have embedded := perm.map (Prod.map id form.embed)
  rwa [List.map_map] at embedded

/-- The slots of a record hold what the members of these names say. -/
def Holds (form : Form ν) (names : List String) (slots : Slots ν) (members : List (String × Json)) :
    Prop :=
  ∀ name ∈ names, slots.lookup name = (members.lookup name).map form.tree

section Records

variable {form : Form ν} {names : List String} {slots : Slots ν} {members : List (String × Json)}
  {α : Type}

section Entries

variable {entries : List (String × ν)} (perm : entries.Perm (form.branches members))
  (distinct : (members.map Prod.fst).Nodup)

include perm distinct

/-- Keys that are distinct are so in any order. -/
theorem nodup_of_perm : (entries.map Prod.fst).Nodup := by
  rwa [(perm.map Prod.fst).nodup_iff, keys_branches]

/-- The entries of the known fields are slots that hold the members. -/
theorem exists_knownSlots? (names : List String) :
    ∃ slots, knownSlots? names entries = some slots ∧ form.Holds names slots members := by
  have apart := nodup_of_perm perm distinct
  refine ⟨_, knownSlots?_of_nodup apart names, ?_⟩
  intro name known
  rw [lookup_filter (by simp [known]), lookup_eq_of_perm perm apart, branches, lookup_map]

/-- A record is read from entries when it can be read from all slots that hold them. -/
theorem bind_slots?_of_fields? {tree : ν}
    (fields : Source.fields? tree = some (namedFields entries)) {read : Slots ν → Option α}
    {value : α} (reads : ∀ slots, form.Holds names slots members → read slots = some value) :
    slots? names tree >>= read = some value := by
  obtain ⟨slots, known, holds⟩ := exists_knownSlots? perm distinct names
  rw [slots?, fields, namedFields]
  simp only [namedEntries_name, known, Option.bind_eq_bind, Option.bind_some]
  exact reads slots holds

end Entries

/-- A record is read from an object when it can be read from all slots that hold its members. -/
theorem bind_slots? (distinct : (members.map Prod.fst).Nodup) {read : Slots ν → Option α}
    {value : α} (reads : ∀ slots, form.Holds names slots members → read slots = some value) :
    slots? names (form.tree (.obj members)) >>= read = some value := by
  obtain ⟨ordered, same, perm⟩ := form.rearranges.obj members distinct
  have fields : Source.fields? (form.tree (.obj members)) =
      some (namedFields (ordered.map (Prod.map id form.embed))) := by
    rw [tree, same, form.answers.fields?]
  exact bind_slots?_of_fields? (form.perm_branches perm) distinct fields reads

/-- A record is read from a mapping in the same way. -/
theorem bind_slots?_named {form : Form Loose}
    {entries : List (String × Loose)} (perm : entries.Perm (form.branches members))
    (distinct : (members.map Prod.fst).Nodup) {read : Slots Loose → Option α} {value : α}
    (reads : ∀ slots, form.Holds names slots members → read slots = some value) :
    slots? names (Loose.mapping (Loose.named entries)) >>= read = some value :=
  bind_slots?_of_fields? perm distinct (Loose.fields?_named entries) reads

/-- What a field that may be missing is read from. -/
theorem Holds.fieldOr (holds : form.Holds names slots members) {name : String}
    (known : name ∈ names) (absent : α) (read : ν → Option α) :
    slots.fieldOr name absent read =
      match members.lookup name with
      | some value => read (form.tree value)
      | none => some absent := by
  rw [Slots.fieldOr, holds name known]
  cases members.lookup name <;> rfl

/-- What a field that must be given is read from. -/
theorem Holds.field (holds : form.Holds names slots members) {name : String}
    (known : name ∈ names) (read : ν → Option α) :
    slots.field name read =
      match members.lookup name with
      | some value => read (form.tree value)
      | none => none := by
  rw [Slots.field, holds name known]
  cases members.lookup name <;> rfl

end Records

section Readers

variable {form : Form ν} {α : Type}

/-- Items are all read back when each of them is. -/
theorem readAll_map {encode : α → Json} {read : ν → Option α}
    (reads : ∀ value, read (form.tree (encode value)) = some value) (values : List α) :
    readAll read ((values.map encode).map form.tree) = some values := by
  induction values with
  | nil => rfl
  | cons first rest ih => rw [List.map_cons, List.map_cons, readAll, reads, ih]

/-- A list is read back when its items are. -/
theorem list_tree {encode : α → Json} {read : ν → Option α}
    (reads : ∀ value, read (form.tree (encode value)) = some value) (values : List α) :
    list read (form.tree (.arr (values.map encode))) = some values := by
  rw [list, items?_tree]
  exact readAll_map reads values

/-- A list of texts is read back. -/
@[simp]
theorem texts_tree (values : List String) : texts (form.tree (Json.strs values)) = some values :=
  list_tree form.text?_tree values

/-- An optional value is read from `null` or from what is not `null`. -/
theorem optional_tree {encode : α → Json} {read : ν → Option α}
    (reads : ∀ value, read (form.tree (encode value)) = some value)
    (present : ∀ value, (encode value).isNull = false) (value : Option α) :
    optional read (form.tree (Json.optional encode value)) = some value := by
  cases value with
  | none => simp [optional, Json.optional, Json.isNull]
  | some value => simp [optional, Json.optional, present, reads]

/-- An optional value is read from the member that is present exactly when the value is. -/
theorem Holds.optional {names : List String} {slots : Slots ν} {members : List (String × Json)}
    (holds : form.Holds names slots members) {name : String} (known : name ∈ names)
    (encode : α → Json) {read : ν → Option α} {value : Option α}
    (given : members.lookup name = value.map encode)
    (reads : ∀ present ∈ value, read (form.tree (encode present)) = some present)
    (present : ∀ present ∈ value, (encode present).isNull = false) :
    slots.fieldOr name none (Source.optional read) = some value := by
  rw [holds.fieldOr known, given]
  cases value with
  | none => rfl
  | some value => simp [Source.optional, present, reads]

/-- An optional text is read back. -/
@[simp]
theorem optionalText_tree (value : Option String) :
    optionalText (form.tree (Json.optional Json.str value)) = some value :=
  optional_tree form.text?_tree (fun _ => rfl) value

variable (form)

/-- An integer of 64 bits with a sign is read back. -/
@[simp]
theorem int64_tree (n : Int64) : int64 (form.tree (Json.int n.toInt)) = some n := by
  have low := n.le_toInt
  have high := n.toInt_lt
  rw [int64, int?_tree]
  simp
  omega

/-- A number of 32 bits is read back. -/
@[simp]
theorem nat32_tree (n : UInt32) : nat32 (form.tree (Json.int n.toNat)) = some n := by
  have fits : n.toNat < 0x100000000 := n.toNat_lt
  rw [nat32, nat?_tree]
  simp [fits]

/-- A number of 64 bits is read back. -/
@[simp]
theorem nat64_tree (n : UInt64) : nat64 (form.tree (Json.int n.toNat)) = some n := by
  have fits : n.toNat < 0x10000000000000000 := n.toNat_lt
  rw [nat64, nat?_tree]
  simp [fits]

end Readers

end Form

end Source

end VmLaunch
