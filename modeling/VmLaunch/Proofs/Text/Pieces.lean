import VmLaunch.Text.Pieces

/-!
# Pieces of a text

A separator between two texts divides their pieces, and a text without a separator is one piece.
-/

namespace VmLaunch.Text

variable {sep : Char} {cs : List Char}

/-- A text has one piece at least. -/
theorem splitOn_ne_nil (sep : Char) (cs : List Char) : splitOn sep cs ≠ [] := by
  cases cs with
  | nil => simp [splitOn]
  | cons c rest =>
    unfold splitOn
    split
    · simp
    · split <;> simp

/-- There is one piece where the separator does not stand. -/
theorem splitOn_of_not_mem (absent : sep ∉ cs) : splitOn sep cs = [cs] := by
  induction cs with
  | nil => rfl
  | cons c rest inductionHypothesis =>
    have other : c ≠ sep := fun same => absent (same ▸ List.mem_cons_self)
    have later : sep ∉ rest := fun member => absent (List.mem_cons_of_mem c member)
    rw [splitOn, if_neg other, inductionHypothesis later]

/-- The pieces of two texts with a separator between them are those of the first and those of the
second. -/
theorem splitOn_append_cons (front back : List Char) :
    splitOn sep (front ++ sep :: back) = splitOn sep front ++ splitOn sep back := by
  induction front with
  | nil => simp [splitOn]
  | cons c rest inductionHypothesis =>
    by_cases cut : c = sep
    · subst cut
      simp [splitOn, inductionHypothesis]
    · rw [List.cons_append, splitOn, splitOn, if_neg cut, if_neg cut, inductionHypothesis]
      cases pieces : splitOn sep rest with
      | nil => exact absurd pieces (splitOn_ne_nil sep rest)
      | cons piece more => rfl

theorem join_cons_cons (sep s t : String) (rest : List String) :
    join sep (s :: t :: rest) = s ++ sep ++ join sep (t :: rest) :=
  rfl

end VmLaunch.Text
