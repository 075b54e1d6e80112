import VmLaunch.Source.Record

/-!
# Entries by name

What a reader finds under a name does not depend on the order of the entries as long as no name
occurs twice, nor on the entries under other names.
-/

namespace VmLaunch.Source

variable {α β : Type}

/-- The check for distinct keys is that no key stands twice. -/
theorem distinctKeys_iff {slots : Slots α} :
    distinctKeys slots = true ↔ (slots.map Prod.fst).Nodup := by
  induction slots with
  | nil => simp [distinctKeys]
  | cons first rest ih =>
    obtain ⟨key, tree⟩ := first
    have fresh : (!rest.any fun entry => entry.1 == key) = true ↔ key ∉ rest.map Prod.fst := by
      grind
    rw [distinctKeys, Bool.and_eq_true, fresh, ih, List.map_cons, List.nodup_cons]

/-- To change values leaves the keys as they are. -/
theorem keys_map (f : α → β) (entries : List (String × α)) :
    (entries.map (Prod.map id f)).map Prod.fst = entries.map Prod.fst := by
  rw [List.map_map]
  rfl

/-- What is looked up among changed values is the changed value. -/
theorem lookup_map (f : α → β) (name : String) (entries : List (String × α)) :
    (entries.map (Prod.map id f)).lookup name = (entries.lookup name).map f := by
  induction entries with
  | nil => rfl
  | cons first rest ih =>
    obtain ⟨key, value⟩ := first
    rw [List.map_cons, Prod.map, id, List.lookup_cons, List.lookup_cons, ih]
    cases name == key <;> rfl

/-- Under distinct keys the order of entries does not matter. -/
theorem lookup_eq_of_perm {entries others : List (String × α)} (perm : entries.Perm others)
    (distinct : (entries.map Prod.fst).Nodup) (name : String) :
    entries.lookup name = others.lookup name := by
  induction perm with
  | nil => rfl
  | cons first _ ih =>
    rw [List.lookup_cons, List.lookup_cons, ih (List.nodup_cons.1 distinct).2]
  | swap first second rest =>
    obtain ⟨key, tree⟩ := first
    obtain ⟨other, branch⟩ := second
    have differs : other ≠ key := by
      rintro rfl
      simp at distinct
    simp only [List.lookup_cons]
    by_cases same : name = key
    · subst same
      rw [beq_self_eq_true, beq_false_of_ne differs.symm]
    · rw [beq_false_of_ne same]
  | trans first _ ih ih' =>
    rw [ih distinct, ih' ((first.map Prod.fst).nodup_iff.1 distinct)]

/-- Entries that are chosen by their keys are found as before. -/
theorem lookup_filter {κ : Type} [BEq κ] [LawfulBEq κ] {keep : κ × α → Bool} {name : κ}
    (kept : ∀ value, keep (name, value) = true) (entries : List (κ × α)) :
    (entries.filter keep).lookup name = entries.lookup name := by
  induction entries with
  | nil => rfl
  | cons first rest ih =>
    obtain ⟨key, value⟩ := first
    rw [List.filter_cons]
    by_cases same : name = key
    · subst same
      rw [if_pos (kept value), List.lookup_cons_self, List.lookup_cons_self]
    · rw [List.lookup_cons, beq_false_of_ne same, ← ih]
      split
      · rw [List.lookup_cons, beq_false_of_ne same]
      · rfl

/-- Of entries of distinct keys those of the known fields are the slots of a record. -/
theorem knownSlots?_of_nodup {entries : List (String × α)}
    (distinct : (entries.map Prod.fst).Nodup) (names : List String) :
    knownSlots? names entries = some (entries.filter fun entry => names.contains entry.1) := by
  have known : distinctKeys (entries.filter fun entry => names.contains entry.1) = true :=
    distinctKeys_iff.2 (distinct.sublist (List.filter_sublist.map Prod.fst))
  rw [knownSlots?, if_pos known]

/-- Entries by name are not renamed. -/
theorem namedEntries_name (names : List String) (entries : List (String × α)) :
    namedEntries names (entries.map fun (name, tree) => (.name name, tree)) = entries := by
  induction entries with
  | nil => rfl
  | cons first rest ih => exact congrArg (List.cons first) ih

end VmLaunch.Source
