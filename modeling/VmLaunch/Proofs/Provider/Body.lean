import VmLaunch.Proofs.Source.Entries
import VmLaunch.Provider.Pages

/-!
# What a page shows

The body of a page is an object with the items and the token of the next page, or a list of
these two. Either may be missing: no items are an empty list, and a token may also be null.
No body at all is an empty page. `decode_eq_some_iff` says that a page is decoded from just
the bodies that show it.
-/

namespace VmLaunch.Page

open Source

variable {α : Type}

/-- The names of a page's fields. -/
abbrev fields : List String :=
  ["items", "nextPageToken"]

/-- The parts that a body holds for the fields of a page: an object by name, each at most once,
and a list by position. -/
inductive Holds : Json → Option Json → Option Json → Prop where
  | object {members} (once : ((members.map Prod.fst).filter (fields.contains ·)).Nodup) :
      Holds (.obj members) (members.lookup "items") (members.lookup "nextPageToken")
  | list {parts} (short : parts.length ≤ 2) : Holds (.arr parts) parts[0]? parts[1]?

/-- The items of a part, each as it is read; none when the part is missing. -/
inductive Lists (read : Json → Option α) : Option Json → List α → Prop where
  | missing : Lists read none []
  | listed {values items} (each : values.map read = items.map some) :
      Lists read (some (.arr values)) items

/-- The token of a part; none when the part is missing or null. -/
inductive Tells : Option Json → Option String → Prop where
  | missing : Tells none none
  | null : Tells (some .null) none
  | token {text} : Tells (some (.str text)) (some text)

/-- The page that a body shows. -/
inductive Shows (read : Json → Option α) : Json → Page α → Prop where
  | nothing : Shows read .null ⟨[], none⟩
  | parts {body itemsPart tokenPart items next} (holds : Holds body itemsPart tokenPart)
      (lists : Lists read itemsPart items) (tells : Tells tokenPart next) :
      Shows read body ⟨items, next⟩

/-- Values are all read when each of them is. -/
theorem readAll_eq_some_iff {read : Json → Option α} {values : List Json} {items : List α} :
    readAll read values = some items ↔ values.map read = items.map some := by
  induction values generalizing items with
  | nil => cases items <;> simp [readAll]
  | cons value rest inductionHypothesis =>
    cases items with
    | nil =>
      simp only [readAll, List.map_cons, List.map_nil, reduceCtorEq, iff_false]
      split <;> simp
    | cons item items =>
      rw [List.map_cons, List.map_cons, List.cons.injEq, ← inductionHypothesis, readAll]
      cases read value <;> cases readAll read rest <;> simp

variable {slots : Slots Json}

/-- A body lists items when its slot for them is read as these. -/
theorem lists_lookup_iff {read : Json → Option α} {items : List α} :
    Lists read (slots.lookup "items") items ↔
      slots.fieldOr "items" [] (Source.list read) = some items := by
  unfold Slots.fieldOr
  cases slots.lookup "items" with
  | none =>
    constructor
    · rintro ⟨⟩
      rfl
    · rintro ⟨⟩
      exact .missing
  | some part =>
    constructor
    · rintro ⟨⟩
      exact readAll_eq_some_iff.mpr ‹_›
    · intro listed
      cases part with
      | arr values => exact .listed (readAll_eq_some_iff.mp listed)
      | _ => cases listed

/-- A body tells the next page when its slot for it is read as that. -/
theorem tells_lookup_iff {next : Option String} :
    Tells (slots.lookup "nextPageToken") next ↔
      slots.fieldOr "nextPageToken" none optionalText = some next := by
  unfold Slots.fieldOr
  cases slots.lookup "nextPageToken" with
  | none =>
    constructor
    · rintro ⟨⟩
      rfl
    · rintro ⟨⟩
      exact .missing
  | some part =>
    constructor
    · rintro ⟨⟩ <;> rfl
    · intro told
      cases part with
      | null =>
        cases told
        exact .null
      | str text =>
        cases told
        exact .token
      | _ => cases told

/-- The slots of an object are its members under the names of fields, when each is there at most
once. -/
theorem slots?_obj_eq_some_iff {members : List (String × Json)} :
    slots? fields (.obj members) = some slots ↔
      ((members.map Prod.fst).filter (fields.contains ·)).Nodup ∧
        members.filter (fun member => fields.contains member.1) = slots := by
  have known : slots? fields (.obj members) = knownSlots? fields members :=
    congrArg (knownSlots? fields) (namedEntries_name fields members)
  have keys : (members.filter fun member => fields.contains member.1).map Prod.fst =
      (members.map Prod.fst).filter (fields.contains ·) := by
    rw [List.filter_map]
    rfl
  rw [known, knownSlots?, ← keys, ← distinctKeys_iff]
  split
  next once => exact ⟨fun same => ⟨once, Option.some.inj same⟩, fun slots => congrArg some slots.2⟩
  next twice => exact iff_of_false (Option.some_ne_none _).symm fun slots => twice slots.1

/-- The slots of a list are its parts in the order of the fields, when there are no more. -/
theorem slots?_arr_eq_some_iff {parts : List Json} :
    slots? fields (.arr parts) = some slots ↔ parts.length ≤ 2 ∧ fields.zip parts = slots := by
  change (if parts.length ≤ 2 then some (fields.zip parts) else none) = some slots ↔ _
  split <;> simp [*]

/-- A body holds the parts that are found in its slots. -/
theorem holds_iff {body : Json} {itemsPart tokenPart : Option Json} :
    Holds body itemsPart tokenPart ↔
      ∃ slots, slots? fields body = some slots ∧ slots.lookup "items" = itemsPart ∧
        slots.lookup "nextPageToken" = tokenPart := by
  cases body with
  | obj members =>
    have found : ∀ name ∈ fields,
        (members.filter fun member => fields.contains member.1).lookup name = members.lookup name :=
      fun name known => lookup_filter (by simpa using known) members
    simp only [slots?_obj_eq_some_iff]
    constructor
    · rintro ⟨once⟩
      exact ⟨_, ⟨once, rfl⟩, found _ (by simp), found _ (by simp)⟩
    · rintro ⟨_, ⟨once, rfl⟩, rfl, rfl⟩
      rw [found _ (by simp), found _ (by simp)]
      exact .object once
  | arr parts =>
    have found : parts.length ≤ 2 → (fields.zip parts).lookup "items" = parts[0]? ∧
        (fields.zip parts).lookup "nextPageToken" = parts[1]? := by
      intro short
      match parts, short with
      | [], _ => exact ⟨rfl, rfl⟩
      | [_], _ => exact ⟨rfl, rfl⟩
      | [_, _], _ => exact ⟨rfl, rfl⟩
    simp only [slots?_arr_eq_some_iff]
    constructor
    · rintro ⟨⟩
      exact ⟨_, ⟨‹_›, rfl⟩, found ‹_›⟩
    · rintro ⟨_, ⟨short, rfl⟩, rfl, rfl⟩
      rw [(found short).1, (found short).2]
      exact .list short
  | _ =>
    constructor
    · rintro ⟨⟩
    · rintro ⟨_, absent, -⟩
      cases absent

/-- A page is decoded from just the bodies that show it. -/
theorem decode_eq_some_iff {read : Json → Option α} {body : Json} {page : Page α} :
    decode read body = some page ↔ Shows read body page := by
  have bare : ∀ {itemsPart tokenPart}, ¬ Holds .null itemsPart tokenPart := nofun
  unfold decode
  cases vacant : body.isNull with
  | true =>
    obtain rfl : body = .null := by cases body <;> trivial
    constructor
    · rintro ⟨⟩
      exact .nothing
    · rintro (_ | ⟨holds, -, -⟩)
      · rfl
      · exact absurd holds bare
  | false =>
    simp only [Bool.false_eq_true, if_false, Option.bind_eq_bind, Option.bind_eq_some_iff,
      Option.pure_def, Option.some.injEq, ← lists_lookup_iff, ← tells_lookup_iff]
    constructor
    · rintro ⟨slots, read, items, lists, next, tells, rfl⟩
      exact .parts (holds_iff.mpr ⟨slots, read, rfl, rfl⟩) lists tells
    · rintro (_ | ⟨holds, lists, tells⟩)
      · cases vacant
      · obtain ⟨slots, read, rfl, rfl⟩ := holds_iff.mp holds
        exact ⟨slots, read, _, lists, _, tells, rfl⟩

end VmLaunch.Page
