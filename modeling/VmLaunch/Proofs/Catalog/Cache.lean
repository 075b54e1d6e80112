import VmLaunch.Catalog.Cache

/-!
# Entries of a cache

What each operation of a cache does to the entry of a key: `stored?` is the
observation from which reading and expiry follow.
-/

namespace VmLaunch.Cache

variable {α : Type} {cache : Cache α} {now : Nat} {key other : String}

private theorem lookup_filter_ne (entries : List (String × Stored α)) (apart : key ≠ other) :
    (entries.filter fun entry => entry.1 != other).lookup key = entries.lookup key := by
  induction entries with
  | nil => rfl
  | cons entry rest inductionHypothesis =>
    by_cases dropped : entry.1 = other
    · have passed : (key == entry.1) = false := by simpa [dropped] using apart
      rw [List.filter_cons_of_neg (by simp [dropped]), inductionHypothesis, List.lookup_cons,
        passed]
    · rw [List.filter_cons_of_pos (by simpa using dropped), List.lookup_cons, List.lookup_cons,
        inductionHypothesis]

private theorem lookup_filter_self (entries : List (String × Stored α)) (key : String) :
    (entries.filter fun entry => entry.1 != key).lookup key = none := by
  rw [List.lookup_eq_none_iff]
  intro entry member
  have apart : entry.1 ≠ key := by simpa using (List.mem_filter.mp member).2
  simpa using apart.symm

/-- To erase one key leaves the entries of the others. -/
theorem stored?_erase_of_ne (apart : key ≠ other) :
    (cache.erase other).stored? key = cache.stored? key :=
  lookup_filter_ne cache.entries apart

/-- A key that was erased has no entry. -/
@[simp]
theorem stored?_erase_self (cache : Cache α) (key : String) :
    (cache.erase key).stored? key = none :=
  lookup_filter_self cache.entries key

/-- Dropping a key changes no entry. -/
theorem stored?_of_erase {entry : Stored α}
    (found : (cache.erase other).stored? key = some entry) : cache.stored? key = some entry := by
  by_cases same : key = other
  · subst same
    rw [stored?_erase_self] at found
    cases found
  · rwa [stored?_erase_of_ne same] at found

/-- A value that was stored is found under its key. -/
@[simp]
theorem stored?_set_self (cache : Cache α) (now : Nat) (key : String) (value : α) :
    (cache.set now key value).stored? key = some ⟨value, cache.expiry now⟩ := by
  simp [set, insert, stored?]

/-- Storing an entry changes no other key. -/
theorem stored?_insert_of_ne {entry : Stored α} (apart : key ≠ other) :
    (cache.insert other entry).stored? key = cache.stored? key := by
  have passed : (key == other) = false := by simpa using apart
  simp only [insert, stored?, List.lookup_cons, passed]
  exact lookup_filter_ne cache.entries apart

/-- Storing a value changes no other key. -/
theorem stored?_set_of_ne {value : α} (apart : key ≠ other) :
    (cache.set now other value).stored? key = cache.stored? key :=
  stored?_insert_of_ne apart

/-- Reading a key changes no other. -/
theorem stored?_evict_of_ne (apart : key ≠ other) :
    (cache.evict now other).stored? key = cache.stored? key := by
  unfold evict
  cases cache.stored? other with
  | none => rfl
  | some entry =>
    by_cases live : Stored.live now entry
    · simp only [live, if_true]
    · simp only [live]
      exact stored?_erase_of_ne apart

/-- After a read the key has the entry that it had, if that is live. -/
theorem stored?_evict_self_iff {entry : Stored α} :
    (cache.evict now key).stored? key = some entry ↔
      cache.stored? key = some entry ∧ now < entry.expires := by
  unfold evict
  cases present : cache.stored? key with
  | none => simp [present]
  | some old =>
    by_cases live : now < old.expires
    · simp only [Stored.live, live, decide_true, if_true, present, Option.some.injEq]
      exact ⟨fun same => ⟨same, same ▸ live⟩, And.left⟩
    · simp only [Stored.live, live, decide_false, Bool.false_eq_true, if_false, stored?_erase_self,
        Option.some.injEq, reduceCtorEq, false_iff, not_and]
      rintro rfl
      exact live

/-- Reading drops entries and changes none. -/
theorem stored?_of_evict {entry : Stored α}
    (found : (cache.evict now other).stored? key = some entry) :
    cache.stored? key = some entry := by
  unfold evict at found
  cases present : cache.stored? other with
  | none => simpa [present] using found
  | some old =>
    simp only [present] at found
    by_cases live : Stored.live now old
    · simpa [live] using found
    · simp only [live] at found
      rw [if_neg (by simp)] at found
      exact stored?_of_erase found

/-- What is read under a key is a live entry. -/
theorem peek?_eq_some_iff {value : α} :
    cache.peek? now key = some value ↔
      ∃ entry, cache.stored? key = some entry ∧ now < entry.expires ∧ entry.value = value := by
  unfold peek?
  cases present : cache.stored? key with
  | none => simp
  | some entry => by_cases live : now < entry.expires <;> simp [Stored.live, live]

/-- A key that was erased is not found at any time. -/
@[simp]
theorem peek?_erase_self (cache : Cache α) (now : Nat) (key : String) :
    (cache.erase key).peek? now key = none := by
  rw [peek?, stored?_erase_self]

/-- What is read under a key depends on its entry alone. -/
theorem peek?_congr {other : Cache α} (same : cache.stored? key = other.stored? key) :
    cache.peek? now key = other.peek? now key := by
  rw [peek?, peek?, same]

/-- To drop what has expired does not change how long entries live. -/
@[simp]
theorem ttl_evict (cache : Cache α) (now : Nat) (key : String) :
    (cache.evict now key).ttl = cache.ttl := by
  unfold evict
  cases cache.stored? key with
  | none => rfl
  | some entry => by_cases live : Stored.live now entry <;> simp [live, erase]

@[simp]
theorem ttl_set (cache : Cache α) (now : Nat) (key : String) (value : α) :
    (cache.set now key value).ttl = cache.ttl :=
  rfl

end VmLaunch.Cache
