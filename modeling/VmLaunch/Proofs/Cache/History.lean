import Mathlib.Data.List.Dedup
import Mathlib.Data.List.Induction
import Mathlib.Data.List.Perm.Subperm
import VmLaunch.Proofs.Catalog.Cache

/-!
# The history of a cache

A `Chronicle` is a cache with everything that was done to it since it was empty. What the cache
answers is a matter of that history alone: `LastSet` finds the latest change of a key there, and
`reads_history` says of every chronicle what its cache answers, drops and holds.
-/

namespace VmLaunch.Cache

variable {α : Type}

section Entries

variable {cache : Cache α} {now : Nat} {key : String}

/-- The keys with an entry, live or not. -/
def keys (cache : Cache α) : List String :=
  cache.entries.map Prod.fst

/-- There are as many keys as entries. -/
theorem length_keys (cache : Cache α) : cache.keys.length = cache.size :=
  List.length_map _

/-- To erase an entry takes its key away. -/
theorem keys_erase (cache : Cache α) (key : String) :
    (cache.erase key).keys = cache.keys.filter (· != key) := by
  simp [keys, erase, List.filter_map, Function.comp_def]

/-- To set a key puts it in front and takes it away elsewhere. -/
theorem keys_set (cache : Cache α) (now : Nat) (key : String) (value : α) :
    (cache.set now key value).keys = key :: cache.keys.filter (· != key) :=
  congrArg (key :: ·) (keys_erase cache key)

/-- To drop what has expired adds no key. -/
theorem keys_evict_sublist (cache : Cache α) (now : Nat) (key : String) :
    (cache.evict now key).keys.Sublist cache.keys := by
  unfold evict
  split
  · split
    · exact .refl _
    · rw [keys_erase]
      exact List.filter_sublist
  · exact .refl _

end Entries

/-- What is done to a cache and its clock. -/
inductive Deed (α : Type) where
  | set (key : String) (value : α)
  | get (key : String)
  | invalidate (key : String)
  | advance (d : Duration)

namespace Deed

/-- The key that a deed concerns. -/
def key? : Deed α → Option String
  | set key _ => some key
  | get key => some key
  | invalidate key => some key
  | advance _ => none

/-- The key that a deed sets. -/
def setKey? : Deed α → Option String
  | set key _ => some key
  | _ => none

/-- Whether a deed sets a key or invalidates it. -/
def Changes (key : String) : Deed α → Prop
  | set other _ => other = key
  | invalidate other => other = key
  | _ => False

end Deed

/-- Deeds in order, each with the time at which it was done. -/
abbrev Log (α : Type) := List (Nat × Deed α)

/-- A cache and its clock, with all that was done to them. -/
structure Chronicle (α : Type) where
  log : Log α
  now : Nat
  cache : Cache α

namespace Chronicle

/-- A cache that nothing was done to. -/
def begin (ttl : Duration) (start : Nat) : Chronicle α :=
  ⟨[], start, .empty ttl⟩

/-- The cache after a deed. -/
def cacheAfter (chronicle : Chronicle α) : Deed α → Cache α
  | .set key value => chronicle.cache.set chronicle.now key value
  | .get key => (chronicle.cache.get chronicle.now key).2
  | .invalidate key => (chronicle.cache.invalidate key).2
  | .advance _ => chronicle.cache

/-- The time after a deed. -/
def nowAfter (chronicle : Chronicle α) : Deed α → Nat
  | .advance d => d.after chronicle.now
  | _ => chronicle.now

/-- The chronicle with one more deed. -/
def perform (chronicle : Chronicle α) (deed : Deed α) : Chronicle α where
  log := chronicle.log ++ [(chronicle.now, deed)]
  now := chronicle.nowAfter deed
  cache := chronicle.cacheAfter deed

/-- The chronicle of deeds from an empty cache on. -/
def ofDeeds (ttl : Duration) (start : Nat) (deeds : List (Deed α)) : Chronicle α :=
  deeds.foldl perform (begin ttl start)

/-- What holds of an empty cache and stays with every deed holds of every chronicle. -/
theorem ofDeeds_induction {ttl : Duration} {start : Nat} {motive : Chronicle α → Prop}
    (empty : motive (begin ttl start))
    (deed : ∀ chronicle deed, motive chronicle → motive (chronicle.perform deed))
    (deeds : List (Deed α)) : motive (ofDeeds ttl start deeds) := by
  induction deeds using List.reverseRecOn with
  | nil => exact empty
  | append_singleton earlier last inductionHypothesis =>
    rw [ofDeeds, List.foldl_append]
    exact deed _ last inductionHypothesis

end Chronicle

/-- The latest change of a key is that a value was set, at a time and before what was done
since. -/
def LastSet (log : Log α) (key : String) (value : α) (time : Nat) (since : Log α) : Prop :=
  (∃ before, log = before ++ (time, .set key value) :: since) ∧
    ∀ entry ∈ since, ¬ entry.2.Changes key

/-- Whether every read among deeds was made before a time. -/
def ReadBefore (expiry : Nat) (key : String) (since : Log α) : Prop :=
  ∀ moment, (moment, .get key) ∈ since → moment < expiry

section LastSet

variable {log since : Log α} {key : String} {value : α} {time now expiry : Nat} {deed : Deed α}

/-- Where nothing was done nothing was set. -/
theorem not_lastSet_nil : ¬ LastSet ([] : Log α) key value time since := by
  rintro ⟨⟨before, split⟩, -⟩
  simp at split

/-- A deed is the latest change, or it is none and comes after it. -/
theorem lastSet_snoc_iff :
    LastSet (log ++ [(now, deed)]) key value time since ↔
      (now = time ∧ deed = .set key value ∧ since = []) ∨
        ¬ deed.Changes key ∧
          ∃ earlier, since = earlier ++ [(now, deed)] ∧ LastSet log key value time earlier := by
  constructor
  · rintro ⟨⟨before, split⟩, unchanged⟩
    rcases List.eq_nil_or_concat since with rfl | ⟨earlier, last, rfl⟩
    · obtain ⟨-, same⟩ := List.append_inj' split rfl
      cases same
      exact .inl ⟨rfl, rfl, rfl⟩
    · rw [List.concat_eq_append] at split unchanged ⊢
      rw [← List.cons_append, ← List.append_assoc] at split
      obtain ⟨same, lasts⟩ := List.append_inj' split rfl
      cases lasts
      refine .inr
        ⟨unchanged (now, deed) (by simp), earlier, rfl, ⟨before, same⟩, fun entry member => ?_⟩
      exact unchanged entry (List.mem_append_left _ member)
  · rintro (⟨rfl, rfl, rfl⟩ | ⟨unchanged, earlier, rfl, ⟨before, rfl⟩, before_unchanged⟩)
    · exact ⟨⟨log, rfl⟩, by simp⟩
    · refine ⟨⟨before, by simp⟩, List.forall_mem_append.mpr ⟨before_unchanged, ?_⟩⟩
      exact List.forall_mem_singleton.mpr unchanged

/-- One more deed was read before a time, unless it is a read that comes too late. -/
theorem readBefore_snoc_iff :
    ReadBefore expiry key (since ++ [(now, deed)]) ↔
      ReadBefore expiry key since ∧ (deed = .get key → now < expiry) := by
  constructor
  · refine fun reads => ⟨fun moment member => reads moment (List.mem_append_left _ member), ?_⟩
    rintro rfl
    exact reads now (by simp)
  · rintro ⟨reads, last⟩ moment member
    rcases List.mem_append.mp member with earlier | final
    · exact reads moment earlier
    · cases List.mem_singleton.mp final
      exact last rfl

end LastSet

/-- A value was set at a time, and the key was neither changed nor read late since. -/
def Kept (ttl : Duration) (log : Log α) (key : String) (value : α) (time : Nat) : Prop :=
  ∃ since, LastSet log key value time since ∧ ReadBefore (time + ttl.nanos) key since

/-- A value is kept with one more deed when it was set by it, or when it was kept and the deed
neither changes the key nor reads it too late. -/
theorem kept_snoc_iff {ttl : Duration} {log : Log α} {key : String} {value : α} {time now : Nat}
    {deed : Deed α} :
    Kept ttl (log ++ [(now, deed)]) key value time ↔
      (now = time ∧ deed = .set key value) ∨
        Kept ttl log key value time ∧ ¬ deed.Changes key ∧
          (deed = .get key → now < time + ttl.nanos) := by
  constructor
  · rintro ⟨since, last, reads⟩
    rcases lastSet_snoc_iff.mp last with ⟨here, sets, -⟩ | ⟨unchanged, earlier, rfl, before⟩
    · exact .inl ⟨here, sets⟩
    · obtain ⟨early, late⟩ := readBefore_snoc_iff.mp reads
      exact .inr ⟨⟨earlier, before, early⟩, unchanged, late⟩
  · rintro (⟨here, sets⟩ | ⟨⟨since, last, reads⟩, unchanged, late⟩)
    · exact ⟨[], lastSet_snoc_iff.mpr (.inl ⟨here, sets, rfl⟩), by simp [ReadBefore]⟩
    · exact ⟨_, lastSet_snoc_iff.mpr (.inr ⟨unchanged, since, rfl, last⟩),
        readBefore_snoc_iff.mpr ⟨reads, late⟩⟩

/-- Deeds on other keys do not matter. -/
theorem kept_snoc_of_ne {ttl : Duration} {log : Log α} {key : String} {value : α}
    {time now : Nat} {deed : Deed α} (apart : deed.key? ≠ some key) :
    Kept ttl (log ++ [(now, deed)]) key value time ↔ Kept ttl log key value time := by
  have unchanged : ¬ deed.Changes key := by
    intro changes
    cases deed <;> simp_all [Deed.Changes, Deed.key?]
  rw [kept_snoc_iff]
  constructor
  · rintro (⟨-, rfl⟩ | ⟨kept, -⟩)
    · exact absurd rfl apart
    · exact kept
  · refine fun kept => .inr ⟨kept, unchanged, ?_⟩
    rintro rfl
    exact absurd rfl apart

namespace Chronicle

variable {ttl : Duration} {start : Nat}

/-- A deed leaves the entries of other keys as they are. -/
theorem stored?_perform_of_ne (chronicle : Chronicle α) {deed : Deed α} {key : String}
    (apart : deed.key? ≠ some key) :
    (chronicle.perform deed).cache.stored? key = chronicle.cache.stored? key := by
  cases deed with
  | set other value => exact stored?_set_of_ne fun same => apart (congrArg some same.symm)
  | get other => exact stored?_evict_of_ne fun same => apart (congrArg some same.symm)
  | invalidate other => exact stored?_erase_of_ne fun same => apart (congrArg some same.symm)
  | advance d => rfl

/-- No deed changes how long entries live. -/
theorem ttl_perform (chronicle : Chronicle α) (deed : Deed α) :
    (chronicle.perform deed).cache.ttl = chronicle.cache.ttl := by
  cases deed with
  | get key => exact ttl_evict _ _ _
  | _ => rfl

/-- Nothing was done later than now. -/
theorem time_le_now (deeds : List (Deed α)) :
    ∀ entry ∈ (ofDeeds ttl start deeds).log, entry.1 ≤ (ofDeeds ttl start deeds).now := by
  refine ofDeeds_induction
    (motive := fun chronicle => ∀ entry ∈ chronicle.log, entry.1 ≤ chronicle.now) (by simp [begin])
    ?_ deeds
  intro chronicle deed past
  have onward : chronicle.now ≤ chronicle.nowAfter deed := by
    cases deed with
    | advance d => exact Nat.le_add_right _ _
    | _ => exact Nat.le_refl _
  refine List.forall_mem_append.mpr ⟨fun entry member => ?_, List.forall_mem_singleton.mpr onward⟩
  exact Nat.le_trans (past entry member) onward

/-- The log holds the deeds in their order. -/
theorem deeds_ofDeeds (deeds : List (Deed α)) :
    (ofDeeds ttl start deeds).log.map Prod.snd = deeds := by
  induction deeds using List.reverseRecOn with
  | nil => rfl
  | append_singleton earlier last inductionHypothesis =>
    rw [ofDeeds, List.foldl_append, List.foldl_cons, List.foldl_nil, perform, List.map_append]
    exact congrArg (· ++ [last]) inductionHypothesis

/-- Whether the entries are those that the log calls for. -/
structure Tracks (ttl : Duration) (chronicle : Chronicle α) : Prop where
  ttl_eq : chronicle.cache.ttl = ttl
  stored_iff : ∀ key entry, chronicle.cache.stored? key = some entry ↔
    ∃ time, Kept ttl chronicle.log key entry.value time ∧ entry.expires = time + ttl.nanos

/-- A cache that nothing was done to has the entries that its log calls for. -/
theorem tracks_begin : Tracks ttl (begin ttl start : Chronicle α) where
  ttl_eq := rfl
  stored_iff key entry := by
    constructor
    · intro stored
      cases stored
    · rintro ⟨time, ⟨since, last, -⟩, -⟩
      exact absurd last not_lastSet_nil

/-- The entries are still those that the log calls for after one more deed. -/
theorem Tracks.perform {chronicle : Chronicle α} (short : ttl.nanos ≤ Duration.century.nanos)
    (tracks : Tracks ttl chronicle) (deed : Deed α) : Tracks ttl (chronicle.perform deed) where
  ttl_eq := (chronicle.ttl_perform deed).trans tracks.ttl_eq
  stored_iff key entry := by
    by_cases concerns : deed.key? = some key
    · cases deed with
      | set other value =>
        cases concerns
        have lasts : chronicle.cache.expiry chronicle.now = chronicle.now + ttl.nanos := by
          rw [expiry, tracks.ttl_eq, Duration.after, Duration.span_of_le_century short]
        simp only [Chronicle.perform, cacheAfter, stored?_set_self, lasts, kept_snoc_iff]
        constructor
        · rintro ⟨⟩
          exact ⟨_, .inl ⟨rfl, rfl⟩, rfl⟩
        · rintro ⟨time, ⟨rfl, ⟨⟩⟩ | ⟨-, unchanged, -⟩, expires⟩
          · cases entry
            cases expires
            rfl
          · exact absurd rfl unchanged
      | get other =>
        cases concerns
        simp only [Chronicle.perform, cacheAfter, Cache.get, stored?_evict_self_iff,
          tracks.stored_iff, kept_snoc_iff]
        constructor
        · rintro ⟨⟨time, kept, expires⟩, live⟩
          exact ⟨time, .inr ⟨kept, id, fun _ => expires ▸ live⟩, expires⟩
        · rintro ⟨time, ⟨-, ⟨⟩⟩ | ⟨kept, -, late⟩, expires⟩
          exact ⟨⟨time, kept, expires⟩, expires ▸ late trivial⟩
      | invalidate other =>
        cases concerns
        simp only [Chronicle.perform, cacheAfter, Cache.invalidate, stored?_erase_self,
          kept_snoc_iff]
        constructor
        · intro stored
          cases stored
        · rintro ⟨time, ⟨-, ⟨⟩⟩ | ⟨-, unchanged, -⟩, -⟩
          exact absurd rfl unchanged
      | advance d => cases concerns
    · rw [stored?_perform_of_ne chronicle concerns, tracks.stored_iff]
      simp only [Chronicle.perform, kept_snoc_of_ne concerns]

/-- After any deeds the entries are those that the log calls for. -/
theorem tracks_ofDeeds (short : ttl.nanos ≤ Duration.century.nanos) (deeds : List (Deed α)) :
    Tracks ttl (ofDeeds ttl start deeds) :=
  ofDeeds_induction tracks_begin (fun _ deed tracks => tracks.perform short deed) deeds

/-- Whether every key has one entry at most, and was set. -/
structure KeysSet (chronicle : Chronicle α) : Prop where
  nodup : chronicle.cache.keys.Nodup
  were_set : chronicle.cache.keys ⊆ (chronicle.log.map Prod.snd).filterMap Deed.setKey?

/-- Keys are still distinct, and were set, after one more deed. -/
theorem KeysSet.perform {chronicle : Chronicle α} (keysSet : KeysSet chronicle) (deed : Deed α) :
    KeysSet (chronicle.perform deed) := by
  have log : (chronicle.perform deed).log.map Prod.snd = chronicle.log.map Prod.snd ++ [deed] := by
    simp [Chronicle.perform]
  have fewer (remaining : (chronicle.cacheAfter deed).keys.Sublist chronicle.cache.keys) :
      KeysSet (chronicle.perform deed) := by
    refine ⟨keysSet.nodup.sublist remaining, fun key member => ?_⟩
    rw [log, List.filterMap_append]
    exact List.mem_append_left _ (keysSet.were_set (remaining.subset member))
  cases deed with
  | set key value =>
    have keys : (chronicle.cacheAfter (.set key value)).keys =
        key :: chronicle.cache.keys.filter (· != key) := keys_set _ _ _ _
    constructor
    · rw [Chronicle.perform, keys]
      exact List.nodup_cons.mpr ⟨by simp, keysSet.nodup.filter _⟩
    · rw [log, List.filterMap_append, Chronicle.perform, keys]
      refine List.cons_subset.mpr ⟨by simp [Deed.setKey?], fun other member => ?_⟩
      exact List.mem_append_left _ (keysSet.were_set (List.mem_filter.mp member).1)
  | get key => exact fewer (keys_evict_sublist _ _ _)
  | invalidate key => exact fewer (keys_erase _ _ ▸ List.filter_sublist)
  | advance d => exact fewer (.refl _)

/-- After any deeds the keys are distinct and were set. -/
theorem keysSet_ofDeeds (deeds : List (Deed α)) :
    KeysSet (ofDeeds ttl start deeds) :=
  ofDeeds_induction ⟨List.nodup_nil, List.nil_subset _⟩ (fun _ deed keysSet => keysSet.perform deed)
    deeds

/-- No more entries are stored than there are keys that were set. -/
theorem size_le (deeds : List (Deed α)) :
    (ofDeeds ttl start deeds).cache.size ≤ (deeds.filterMap Deed.setKey?).dedup.length := by
  obtain ⟨nodup, were_set⟩ : KeysSet (ofDeeds ttl start deeds) := keysSet_ofDeeds deeds
  rw [deeds_ofDeeds] at were_set
  rw [← length_keys]
  exact (nodup.subperm fun key member => List.mem_dedup.mpr (were_set member)).length_le

/-- A key is read as long as the latest change of it is a set that has not run out. -/
theorem get_iff (short : ttl.nanos ≤ Duration.century.nanos) (deeds : List (Deed α)) (key : String)
    (value : α) :
    ((ofDeeds ttl start deeds).cache.get (ofDeeds ttl start deeds).now key).1 = some value ↔
      ∃ time since, LastSet (ofDeeds ttl start deeds).log key value time since ∧
        (ofDeeds ttl start deeds).now < time + ttl.nanos := by
  refine peek?_eq_some_iff.trans ?_
  simp only [(tracks_ofDeeds short deeds).stored_iff]
  constructor
  · rintro ⟨entry, ⟨time, ⟨since, last, -⟩, expires⟩, live, rfl⟩
    exact ⟨time, since, last, expires ▸ live⟩
  · rintro ⟨time, since, last, live⟩
    -- Nothing is read later than now, so no read since the set came too late.
    have early : ReadBefore (time + ttl.nanos) key since := by
      intro moment member
      obtain ⟨⟨before, split⟩, -⟩ := last
      have logged : (moment, .get key) ∈ (ofDeeds ttl start deeds).log := by
        rw [split]
        exact List.mem_append_right _ (List.mem_cons_of_mem _ member)
      exact Nat.lt_of_le_of_lt (time_le_now deeds _ logged) live
    exact ⟨⟨value, time + ttl.nanos⟩, ⟨time, ⟨since, last, early⟩, rfl⟩, live, rfl⟩

/-- A key is stored from the set on until it is invalidated or read too late. -/
theorem invalidate_iff (short : ttl.nanos ≤ Duration.century.nanos) (deeds : List (Deed α))
    (key : String) :
    ((ofDeeds ttl start deeds).cache.invalidate key).1 = true ↔
      ∃ value time since, LastSet (ofDeeds ttl start deeds).log key value time since ∧
        ReadBefore (time + ttl.nanos) key since := by
  simp only [invalidate, Option.isSome_iff_exists, (tracks_ofDeeds short deeds).stored_iff]
  constructor
  · rintro ⟨entry, time, kept, -⟩
    exact ⟨entry.value, time, kept⟩
  · rintro ⟨value, time, kept⟩
    exact ⟨⟨value, time + ttl.nanos⟩, time, kept, rfl⟩

/-- What a cache answers is read off its history: a key has the value that was set last, if it was
not invalidated since and its time is not over; dropping it finds it there unless it was
invalidated or read too late; deeds on other keys do not matter; and no more entries are stored
than there are keys that were set. -/
theorem reads_history (short : ttl.nanos ≤ Duration.century.nanos) (start : Nat)
    (deeds : List (Deed α)) :
    let chronicle := ofDeeds ttl start deeds
    (∀ key value, (chronicle.cache.get chronicle.now key).1 = some value ↔
      ∃ time since, LastSet chronicle.log key value time since ∧
        chronicle.now < time + ttl.nanos) ∧
    (∀ key, (chronicle.cache.invalidate key).1 = true ↔
      ∃ value time since, LastSet chronicle.log key value time since ∧
        ReadBefore (time + ttl.nanos) key since) ∧
    (∀ (deed : Deed α) key, deed.key? ≠ some key → ∀ later,
      ((chronicle.perform deed).cache.get later key).1 = (chronicle.cache.get later key).1) ∧
    chronicle.cache.size ≤ (deeds.filterMap Deed.setKey?).dedup.length := by
  refine ⟨get_iff short deeds, invalidate_iff short deeds, ?_, size_le deeds⟩
  intro deed key apart later
  exact peek?_congr (stored?_perform_of_ne _ apart)

/-- A value that was refreshed in time is read although the first one would have run out. -/
theorem reads_history_refreshed :
    ∃ time since, LastSet
      (ofDeeds (.ofSecs 60) 0 [.set "networks:p" "default", .advance (.ofSecs 50),
        .set "networks:p" "private", .advance (.ofSecs 50)]).log
      "networks:p" "private" time since ∧ 100000000000 < time + 60000000000 :=
  ((reads_history (by decide) 0 _).1 _ _).mp (by decide +kernel)

end Chronicle

end VmLaunch.Cache
