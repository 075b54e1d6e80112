import Mathlib.Computability.RegularExpressions

/-!
# Patterns

The regular expressions that forms of text are described with: a character of a class, a bounded
repetition and an optional part. Each has a lemma that says which words it matches.
-/

namespace VmLaunch.Text.Pattern

variable {α : Type}

/-- One symbol of a class. -/
def oneOf (symbols : List α) : RegularExpression α :=
  (symbols.map RegularExpression.char).sum

/-- A word of a pattern, or nothing. -/
def maybe (pattern : RegularExpression α) : RegularExpression α :=
  1 + pattern

/-- At most a number of words of a pattern, one behind the other. -/
def atMost (count : Nat) (pattern : RegularExpression α) : RegularExpression α :=
  maybe pattern ^ count

/-- At least and at most a number of words of a pattern, one behind the other. -/
def between (least most : Nat) (pattern : RegularExpression α) : RegularExpression α :=
  pattern ^ least * atMost (most - least) pattern

variable {symbols word : List α}

/-- One of some symbols is matched by each of them alone. -/
theorem mem_oneOf_iff : word ∈ (oneOf symbols).matches' ↔ ∃ symbol ∈ symbols, word = [symbol] := by
  induction symbols with
  | nil => simp [oneOf]
  | cons first rest inductionHypothesis =>
    have step : word ∈ (oneOf (first :: rest)).matches' ↔
        word = [first] ∨ word ∈ (oneOf rest).matches' := by
      rw [oneOf, List.map_cons, List.sum_cons, RegularExpression.matches'_add, Language.mem_add]
      rfl
    rw [step, inductionHypothesis]
    simp

/-- What may be there is matched by nothing and by whatever matches it. -/
theorem mem_maybe_iff {pattern : RegularExpression α} :
    word ∈ (maybe pattern).matches' ↔ word = [] ∨ word ∈ pattern.matches' := by
  rw [maybe, RegularExpression.matches'_add, RegularExpression.matches'_epsilon, Language.mem_add,
    Language.mem_one]

/-- A repetition of a class matches the words over the class that are not too long. -/
theorem mem_atMost_oneOf_iff {count : Nat} :
    word ∈ (atMost count (oneOf symbols)).matches' ↔
      word.length ≤ count ∧ ∀ symbol ∈ word, symbol ∈ symbols := by
  rw [atMost, RegularExpression.matches'_pow]
  induction count generalizing word with
  | zero => simp +contextual [Language.mem_one]
  | succ count inductionHypothesis =>
    simp only [pow_succ', Language.mem_mul, inductionHypothesis, mem_maybe_iff, mem_oneOf_iff]
    constructor
    · rintro ⟨head, rfl | ⟨symbol, known, rfl⟩, tail, ⟨short, all⟩, rfl⟩
      · exact ⟨Nat.le_succ_of_le short, all⟩
      · exact ⟨Nat.succ_le_succ short, List.forall_mem_cons.mpr ⟨known, all⟩⟩
    · rintro ⟨short, all⟩
      cases word with
      | nil => exact ⟨[], .inl rfl, [], ⟨Nat.zero_le _, all⟩, rfl⟩
      | cons symbol rest =>
        obtain ⟨known, others⟩ := List.forall_mem_cons.mp all
        exact ⟨[symbol], .inr ⟨symbol, known, rfl⟩, rest,
          ⟨Nat.le_of_succ_le_succ short, others⟩, rfl⟩

/-- One of some symbols so often is matched by a word of that length. -/
theorem mem_oneOf_pow_iff {count : Nat} :
    word ∈ (oneOf symbols ^ count).matches' ↔
      word.length = count ∧ ∀ symbol ∈ word, symbol ∈ symbols := by
  rw [RegularExpression.matches'_pow]
  induction count generalizing word with
  | zero => simp +contextual [Language.mem_one]
  | succ count inductionHypothesis =>
    simp only [pow_succ', Language.mem_mul, inductionHypothesis, mem_oneOf_iff]
    constructor
    · rintro ⟨head, ⟨symbol, known, rfl⟩, tail, ⟨full, all⟩, rfl⟩
      exact ⟨congrArg Nat.succ full, List.forall_mem_cons.mpr ⟨known, all⟩⟩
    · rintro ⟨full, all⟩
      obtain ⟨symbol, rest, rfl⟩ := List.exists_cons_of_length_eq_add_one full
      obtain ⟨known, others⟩ := List.forall_mem_cons.mp all
      exact ⟨[symbol], ⟨symbol, known, rfl⟩, rest, ⟨Nat.succ.inj full, others⟩, rfl⟩

/-- A repetition of a class between two bounds matches the words over the class of such a length. -/
theorem mem_between_oneOf_iff {least most : Nat} (ordered : least ≤ most) :
    word ∈ (between least most (oneOf symbols)).matches' ↔
      (least ≤ word.length ∧ word.length ≤ most) ∧ ∀ symbol ∈ word, symbol ∈ symbols := by
  simp only [between, RegularExpression.matches'_mul, Language.mem_mul, mem_oneOf_pow_iff,
    mem_atMost_oneOf_iff]
  constructor
  · rintro ⟨front, ⟨full, known⟩, back, ⟨short, others⟩, rfl⟩
    rw [List.length_append]
    exact ⟨⟨by omega, by omega⟩, List.forall_mem_append.mpr ⟨known, others⟩⟩
  · rintro ⟨⟨enough, short⟩, all⟩
    refine ⟨word.take least, ⟨List.length_take_of_le enough, fun symbol member => ?_⟩,
      word.drop least, ⟨?_, fun symbol member => ?_⟩, List.take_append_drop least word⟩
    · exact all symbol (List.mem_of_mem_take member)
    · rw [List.length_drop]
      omega
    · exact all symbol (List.mem_of_mem_drop member)

end VmLaunch.Text.Pattern
