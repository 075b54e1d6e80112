import VmLaunch.Proofs.NameLanguage

/-!
# The language of project ids

The project ids are the words of one pattern: a letter, four to twenty-eight name characters and
one more that is no hyphen.
-/

namespace VmLaunch

open Text.Pattern (oneOf between mem_oneOf_iff mem_between_oneOf_iff)

namespace ProjectId

/-- The pattern `[a-z][-a-z0-9]{4,28}[a-z0-9]`. -/
def pattern : RegularExpression Char :=
  oneOf InstanceName.letters * between 4 28 (oneOf ('-' :: InstanceName.visible)) *
    oneOf InstanceName.visible

/-- A word of the pattern has a letter in front and a name character other than a hyphen behind. -/
theorem mem_pattern_iff {word : List Char} :
    word ∈ pattern.matches' ↔ ∃ first middle last, word = first :: (middle ++ [last]) ∧
      isLowerLetter first = true ∧ (4 ≤ middle.length ∧ middle.length ≤ 28) ∧
        (∀ c ∈ middle, isNameChar c = true) ∧ isNameChar last = true ∧ last ≠ '-' := by
  simp only [pattern, RegularExpression.matches'_mul, Language.mem_mul, mem_oneOf_iff,
    mem_between_oneOf_iff (show 4 ≤ 28 by decide), mem_letters_iff, mem_visible_iff,
    mem_hyphen_visible_iff]
  constructor
  · rintro ⟨_, ⟨_, ⟨first, letter, rfl⟩, middle, ⟨bounds, chars⟩, rfl⟩, _, ⟨last, visible, rfl⟩, rfl⟩
    exact ⟨first, middle, last, rfl, letter, bounds, chars, visible⟩
  · rintro ⟨first, middle, last, rfl, letter, bounds, chars, visible⟩
    exact ⟨first :: middle, ⟨[first], ⟨first, letter, rfl⟩, middle, ⟨bounds, chars⟩, rfl⟩, [last],
      ⟨last, visible, rfl⟩, rfl⟩

end ProjectId

/-- The project ids are the texts that the pattern matches as a whole. -/
theorem isProjectId_iff_mem_pattern {project : String} :
    isProjectId project = true ↔ project.toList ∈ ProjectId.pattern.matches' := by
  rw [ProjectId.mem_pattern_iff, isProjectId]
  cases project.toList with
  | nil => simp
  | cons first rest =>
    simp only [Bool.and_eq_true, decide_eq_true_eq, List.all_eq_true, Bool.not_eq_true',
      beq_eq_false_iff_ne, List.forall_mem_cons, List.cons.injEq]
    constructor
    · rintro ⟨⟨⟨⟨enough, short⟩, letter⟩, -, chars⟩, ends⟩
      obtain ⟨middle, last, rfl⟩ : ∃ middle last, rest = middle ++ [last] :=
        ⟨_, _, (List.dropLast_append_getLast (by rintro rfl; simp at enough)).symm⟩
      obtain ⟨before, after⟩ := List.forall_mem_append.mp chars
      rw [List.length_append, List.length_singleton] at enough short
      refine ⟨first, middle, last, ⟨rfl, rfl⟩, letter, ⟨by omega, by omega⟩, before,
        after last (by simp), fun hyphen => ends ?_⟩
      rw [hyphen, List.getLast?_append]
      rfl
    · rintro ⟨_, middle, last, ⟨rfl, rfl⟩, letter, ⟨enough, short⟩, chars, named, visible⟩
      have firstNamed : isNameChar first = true := by simp [isNameChar, letter]
      rw [List.length_append, List.length_singleton]
      refine ⟨⟨⟨⟨by omega, by omega⟩, letter⟩, firstNamed, ?_⟩, ?_⟩
      · exact List.forall_mem_append.mpr ⟨chars, List.forall_mem_singleton.mpr named⟩
      · rw [List.getLast?_append]
        simpa using visible

end VmLaunch
