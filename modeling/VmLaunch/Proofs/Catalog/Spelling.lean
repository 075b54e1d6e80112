import VmLaunch.Proofs.Catalog.RoundTrip
import VmLaunch.Proofs.Decimal.Digits

/-!
# Spellings of an integer

The provider writes integers of sixty-four bits as text. A number and its decimal text are read
alike, wherever in an entry such an integer stands, and the entry then has that number.
-/

namespace VmLaunch

open Source

namespace Lenient

end Lenient

/-- A record of which one part is left open: an object but for one member, or a list but for one
item. -/
inductive Gap where
  | member (front back : List (String × Json))
  | item (front back : List Json)

namespace Gap

/-- The record with its part given. -/
def fill (field : String) (value : Json) : Gap → Json
  | .member front back => .obj (front ++ (field, value) :: back)
  | .item front back => .arr (front ++ value :: back)

/-- The open part is that of the field at a position: items stand for fields in their order. -/
def Fits (position : Nat) : Gap → Prop
  | .member _ _ => True
  | .item front _ => front.length = position

/-- How a record with an open part is read: it has no slots whatever is filled in, or it has all of
them but that of the open part. -/
inductive Slotted (names : List String) (field : String) (gap : Gap) : Prop where
  | never (unread : ∀ value, slots? names (gap.fill field value) = none)
  | always (before after : List (String × Json)) (fresh : field ∉ before.map Prod.fst)
      (slots : ∀ value,
        slots? names (gap.fill field value) = some (before ++ (field, value) :: after))

end Gap

section Slots

variable {front back : List (String × Json)} {field : String}

/-- A gap among members is a slot of a known field. -/
theorem slotted_member {names : List String} (known : names.contains field = true) :
    Gap.Slotted names field (.member front back) := by
  let kept := fun entry : String × Json => names.contains entry.1
  let before := front.filter kept
  let after := back.filter kept
  have entries : ∀ value, slots? names (Gap.fill field value (.member front back)) =
      if distinctKeys (before ++ (field, value) :: after) then
        some (before ++ (field, value) :: after) else none := by
    intro value
    have filtered : (front ++ (field, value) :: back).filter kept =
        before ++ (field, value) :: after := by
      rw [List.filter_append, List.filter_cons, if_pos known]
    have read : slots? names (Gap.fill field value (.member front back)) =
        knownSlots? names (front ++ (field, value) :: back) :=
      congrArg (knownSlots? names) (namedEntries_name names _)
    rw [read, knownSlots?, ← filtered]
  -- The keys are the same whatever is filled in.
  by_cases apart : (before.map Prod.fst ++ field :: after.map Prod.fst).Nodup
  · have fresh : field ∉ before.map Prod.fst := fun among =>
      (List.nodup_append.1 apart).2.2 field among field List.mem_cons_self rfl
    refine .always before after fresh fun value => ?_
    rw [entries, if_pos (distinctKeys_iff.2 (by simpa using apart))]
  · refine .never fun value => ?_
    rw [entries, if_neg fun all => apart (by simpa using distinctKeys_iff.1 all)]

/-- A gap among items is a slot of the field in that position. -/
theorem slotted_item {names : List String} (distinct : names.Nodup) {front back : List Json}
    (stands : names[front.length]? = some field) :
    Gap.Slotted names field (.item front back) := by
  have read : ∀ value, slots? names (Gap.fill field value (.item front back)) =
      if (front ++ value :: back).length ≤ names.length then
        some (names.zip (front ++ value :: back)) else none := fun _ => rfl
  obtain ⟨prior, later, rfl, aligned⟩ : ∃ prior later,
      names = prior ++ field :: later ∧ prior.length = front.length := by
    obtain ⟨inside, here⟩ := List.getElem?_eq_some_iff.1 stands
    refine ⟨names.take front.length, names.drop (front.length + 1), ?_, by simp; omega⟩
    rw [← here, List.getElem_cons_drop, List.take_append_drop]
  have zipped : ∀ value, (prior ++ field :: later).zip (front ++ value :: back) =
      prior.zip front ++ (field, value) :: later.zip back := fun value => by
    rw [List.zip_append aligned, List.zip_cons_cons]
  by_cases fits : (front ++ Json.null :: back).length ≤ (prior ++ field :: later).length
  · refine .always (prior.zip front) (later.zip back) ?_ fun value => ?_
    · rw [List.map_fst_zip (Nat.le_of_eq aligned)]
      exact fun among => (List.nodup_append.1 distinct).2.2 field among field List.mem_cons_self rfl
    · rw [read, if_pos (by simpa using fits), zipped]
  · exact .never fun value => by rw [read, if_neg (by simpa using fits)]

/-- A gap that fits the position of a field is a slot of it. -/
theorem slotted_of_fits {names : List String} (distinct : names.Nodup) {position : Nat}
    (stands : names[position]? = some field) {gap : Gap} (fits : gap.Fits position) :
    gap.Slotted names field := by
  cases gap with
  | member front back => exact slotted_member (by simpa using List.mem_of_getElem? stands)
  | item front back =>
    cases fits
    exact slotted_item distinct stands

end Slots

/-- What is made of a number, or nothing whatever the number is. -/
def Steady {α : Type} (make : UInt64 → Option α) (told : UInt64 → α → Prop) : Prop :=
  (∀ n, make n = none) ∨ ∃ made : UInt64 → α, ∀ n, make n = some (made n) ∧ told n (made n)

namespace Steady

variable {α β : Type} {told : UInt64 → α → Prop}

/-- What is made of every number, and tells it, is steady. -/
theorem pure {made : UInt64 → α} (tells : ∀ n, told n (made n)) :
    Steady (fun n => Pure.pure (made n)) told :=
  .inr ⟨made, fun n => ⟨rfl, tells n⟩⟩

/-- Anything else may be read first. -/
theorem bind {other : Option β} {make : β → UInt64 → Option α}
    (steady : ∀ value, Steady (make value) told) :
    Steady (fun n => other >>= fun value => make value n) told := by
  cases other with
  | none => exact .inl fun _ => rfl
  | some value => exact steady value

/-- Whether anything is made does not depend on the number. -/
theorem isSome_eq {make : UInt64 → Option α} (steady : Steady make told) (n m : UInt64) :
    (make n).isSome = (make m).isSome := by
  rcases steady with none | ⟨made, makes⟩
  · rw [none n, none m]
  · rw [(makes n).1, (makes m).1]
    rfl

/-- What is made tells the number. -/
theorem tells {make : UInt64 → Option α} (steady : Steady make told) {n : UInt64} {value : α}
    (made : make n = some value) : told n value := by
  rcases steady with none | ⟨others, makes⟩
  · rw [none n] at made
    cases made
  · obtain ⟨same, tells⟩ := makes n
    rw [same] at made
    cases made
    exact tells

end Steady

/-- A reader of a record with an open part depends on that part only by the number that it says,
and tells this number of what it reads. -/
structure Tells {α : Type} (read : Json → Option α) (told : UInt64 → α → Prop) : Prop where
  alike {value other : Json} (same : Lenient.nat64 value = Lenient.nat64 other) :
    read value = read other
  steady : Steady (fun n => read (Json.int n.toNat)) told

namespace Tells

variable {α β : Type} {told : UInt64 → α → Prop}

/-- What is steady in a number depends only on the number that a value says. -/
theorem number {make : UInt64 → Option α} (steady : Steady make told) :
    Tells (fun value => Lenient.nat64 value >>= make) told where
  alike same := by rw [same]
  steady := by simpa using steady

/-- Anything else may be read first. -/
theorem bind {other : Option β} {read : β → Json → Option α}
    (tells : ∀ value, Tells (read value) told) :
    Tells (fun part => other >>= fun value => read value part) told where
  alike same := congrArg (other >>= ·) (funext fun value => (tells value).alike same)
  steady := .bind fun value => (tells value).steady

/-- A record depends on an open field only by its number, when its reader does wherever the field
stands among the others. -/
theorem record {names : List String} (distinct : names.Nodup) {field : String} {position : Nat}
    (stands : names[position]? = some field) {gap : Gap} (fits : gap.Fits position)
    {read : Slots Json → Option α}
    (tells : ∀ before after : List (String × Json), field ∉ before.map Prod.fst →
      Tells (fun value => read (before ++ (field, value) :: after)) told) :
    Tells (fun value => slots? names (gap.fill field value) >>= read) told := by
  cases slotted_of_fits distinct stands fits with
  | never unread =>
    simp only [unread]
    exact ⟨fun _ => rfl, .inl fun _ => rfl⟩
  | always before after fresh slots =>
    simp only [slots]
    exact tells before after fresh

end Tells

namespace EntryKind

/-- The fields of a kind that hold integers of sixty-four bits, with their positions. -/
def wide : EntryKind → List (String × Nat)
  | machineType => [("memoryMb", 4)]
  | image => [("diskSizeGb", 6)]
  | disk => [("sizeGb", 5)]
  | diskType => [("defaultDiskSizeGb", 5)]
  | snapshot => [("diskSizeGb", 4), ("storageBytes", 5)]
  | _ => []

end EntryKind

end VmLaunch
