import Mathlib.Data.List.TakeWhile
import VmLaunch.Text.Blank

/-!
# Text without blanks around it

What trimming leaves is empty or `Tidy`: it begins and ends with a character that is no blank.
Tidy text is left as it stands, and a character that is no blank is never dropped.
-/

namespace VmLaunch.Text

/-- Text that is not empty and has no blank at either end. -/
structure Tidy (text : String) : Prop where
  filled : text ≠ ""
  head : ∀ c ∈ text.toList.head?, isBlank c = false
  last : ∀ c ∈ text.toList.getLast?, isBlank c = false

instance (text : String) : Decidable (Tidy text) :=
  decidable_of_iff
    ((text != "" && text.toList.head?.all (fun c => !isBlank c) &&
      text.toList.getLast?.all (fun c => !isBlank c)) = true) <| by
    simp only [Bool.and_eq_true, bne_iff_ne, Option.all_eq_true, Bool.not_eq_true',
      and_assoc]
    exact ⟨fun facts => ⟨facts.1, facts.2.1, facts.2.2⟩,
      fun tidy => ⟨tidy.filled, tidy.head, tidy.last⟩⟩

section Characters

variable {cs : List Char} {c : Char}

/-- A first character is dropped at the end only when it is blank and nothing is kept behind it. -/
theorem trimEnd_cons (c : Char) (rest : List Char) :
    trimEnd (c :: rest) =
      if trimEnd rest = [] ∧ isBlank c = true then [] else c :: trimEnd rest := by
  rw [trimEnd]
  cases trimEnd rest with
  | nil => by_cases blank : isBlank c = true <;> simp [blank]
  | cons kept others => simp

/-- What is trimmed at the end does not end with a blank. -/
theorem isBlank_last_trimEnd : ∀ c ∈ (trimEnd cs).getLast?, isBlank c = false := by
  induction cs with
  | nil => simp [trimEnd]
  | cons first rest inductionHypothesis =>
    rw [trimEnd_cons]
    cases kept : trimEnd rest with
    | nil => by_cases blank : isBlank first = true <;> simp [blank]
    | cons next others => simpa [kept] using inductionHypothesis

/-- What does not begin with a blank does not once it is trimmed at the end. -/
theorem isBlank_head_trimEnd (head : ∀ c ∈ cs.head?, isBlank c = false) :
    ∀ c ∈ (trimEnd cs).head?, isBlank c = false := by
  cases cs with
  | nil => simp [trimEnd]
  | cons first rest =>
    have visible : isBlank first = false := by simpa using head
    rw [trimEnd_cons, if_neg (by simp [visible])]
    simpa using visible

/-- What does not end with a blank is left as it is. -/
theorem trimEnd_of_last (last : ∀ c ∈ cs.getLast?, isBlank c = false) : trimEnd cs = cs := by
  induction cs with
  | nil => rfl
  | cons first rest inductionHypothesis =>
    rw [trimEnd_cons]
    cases rest with
    | nil =>
      have visible : isBlank first = false := by simpa using last
      simp [trimEnd, visible]
    | cons next others =>
      rw [inductionHypothesis (by simpa using last)]
      simp

/-- To trim at the end drops no visible character. -/
theorem mem_trimEnd_iff (visible : isBlank c = false) : c ∈ trimEnd cs ↔ c ∈ cs := by
  induction cs with
  | nil => simp [trimEnd]
  | cons first rest inductionHypothesis =>
    rw [trimEnd_cons, List.mem_cons, ← inductionHypothesis]
    split
    case isTrue dropped =>
      have other : c ≠ first := by
        rintro rfl
        simp [visible] at dropped
      simp [dropped.1, other]
    case isFalse => exact List.mem_cons

/-- Behind the leading blanks stands no blank. -/
theorem isBlank_head_dropWhile : ∀ c ∈ (cs.dropWhile isBlank).head?, isBlank c = false := by
  intro c member
  have stopped := List.head?_dropWhile_not isBlank cs
  rw [Option.mem_def.mp member] at stopped
  simpa using stopped

/-- No visible character is among the leading blanks. -/
theorem mem_dropWhile_iff (visible : isBlank c = false) : c ∈ cs.dropWhile isBlank ↔ c ∈ cs := by
  refine ⟨fun member => (List.dropWhile_suffix isBlank).mem member, fun member => ?_⟩
  rw [← List.takeWhile_append_dropWhile (p := isBlank) (l := cs)] at member
  rcases List.mem_append.mp member with front | back
  · have blank := List.mem_takeWhile_imp front
    rw [visible] at blank
    cases blank
  · exact back

/-- What stands behind a character that is no blank keeps its end, if that is no blank either. -/
theorem trimChars_append {front back : List Char} (visible : isBlank c = false)
    (filled : back ≠ []) (last : ∀ c ∈ back.getLast?, isBlank c = false) :
    trimChars (front ++ c :: back) = front.dropWhile isBlank ++ c :: back := by
  have dropped : (front ++ c :: back).dropWhile isBlank =
      front.dropWhile isBlank ++ c :: back := by
    rw [List.dropWhile_append]
    split
    case isTrue vacant =>
      rw [List.isEmpty_iff.mp vacant, List.dropWhile_cons_of_neg (by simp [visible])]
      rfl
    case isFalse => rfl
  unfold trimChars
  rw [dropped]
  refine trimEnd_of_last fun final member => last final ?_
  obtain ⟨next, others, rfl⟩ := List.exists_cons_of_ne_nil filled
  simpa [List.getLast?_append, List.getLast?_cons] using member

end Characters

/-- A trimmed text is empty or tidy. -/
theorem trim_eq_empty_or_tidy (s : String) : trim s = "" ∨ Tidy (trim s) := by
  refine or_iff_not_imp_left.mpr fun filled => ⟨filled, ?_, ?_⟩
  · rw [trim, String.toList_ofList]
    exact isBlank_head_trimEnd isBlank_head_dropWhile
  · rw [trim, String.toList_ofList]
    exact isBlank_last_trimEnd

/-- There is nothing to trim at a tidy text. -/
theorem Tidy.trim_eq {s : String} (tidy : Tidy s) : trim s = s := by
  have dropped : s.toList.dropWhile isBlank = s.toList := by
    cases chars : s.toList with
    | nil => rfl
    | cons first rest =>
      have visible : isBlank first = false := tidy.head first (by simp [chars])
      exact List.dropWhile_cons_of_neg (by simp [visible])
  rw [trim, trimChars, dropped, trimEnd_of_last tidy.last, String.ofList_toList]

/-- To trim again changes nothing. -/
@[simp]
theorem trim_trim (s : String) : trim (trim s) = trim s := by
  rcases trim_eq_empty_or_tidy s with empty | tidy
  · rw [empty]
    decide +kernel
  · exact tidy.trim_eq

/-- To trim drops no visible character. -/
theorem mem_trim_iff {c : Char} (visible : isBlank c = false) (s : String) :
    c ∈ (trim s).toList ↔ c ∈ s.toList := by
  rw [trim, String.toList_ofList]
  exact (mem_trimEnd_iff visible).trans (mem_dropWhile_iff visible)

/-- What is left of a text is its trimmed form, unless that is empty. -/
theorem filled?_eq_some_iff {s text : String} :
    filled? s = some text ↔ trim s = text ∧ text ≠ "" := by
  unfold filled? blank
  by_cases empty : trim s = ""
  · simp [empty, eq_comm]
  · simp only [beq_eq_false_iff_ne.mpr empty, Bool.false_eq_true, if_false, Option.some.injEq]
    refine ⟨fun same => ⟨same, ?_⟩, fun same => same.1⟩
    rw [← same]
    exact empty

/-- What is left of a text is tidy. -/
theorem tidy_of_filled? {s text : String} (kept : filled? s = some text) : Tidy text := by
  obtain ⟨rfl, filled⟩ := filled?_eq_some_iff.mp kept
  exact (trim_eq_empty_or_tidy s).resolve_left filled

/-- What is left of an optional text is tidy. -/
theorem tidy_of_given? {value : Option String} {text : String} (given : given? value = some text) :
    Tidy text := by
  obtain ⟨s, -, kept⟩ := Option.bind_eq_some_iff.mp given
  exact tidy_of_filled? kept

/-- What is left of texts is tidy. -/
theorem tidy_of_mem_filledAll {values : List String} {text : String}
    (member : text ∈ filledAll values) : Tidy text := by
  obtain ⟨s, -, kept⟩ := List.mem_filterMap.mp member
  exact tidy_of_filled? kept

end VmLaunch.Text
