import VmLaunch.Text.Pieces

/-!
# Finding a text within another

A text contains another when it is an infix of it. In front of a text that nobody knows
stands a text that is known: `repels` says that no occurrence begins in the known one,
whatever follows, so that what is searched for lies wholly behind it or nowhere.
-/

namespace VmLaunch.Text

/-- Characters are found in others when they stand there in a row. -/
theorem occursIn_iff_isInfix {needle cs : List Char} : occursIn needle cs = true ↔ needle <:+: cs := by
  induction cs with
  | nil => simp [occursIn]
  | cons c rest inductionHypothesis =>
    rw [occursIn, Bool.or_eq_true, inductionHypothesis, List.isPrefixOf_iff_prefix,
      List.infix_cons_iff]

/-- A text contains another when its characters stand in it in a row. -/
theorem contains_iff_isInfix {s needle : String} :
    contains s needle = true ↔ needle.toList <:+: s.toList :=
  occursIn_iff_isInfix

/-- A text is cut at the first occurrence of the separator. -/
theorem cutChars?_eq (sep : Char) (cs : List Char) :
    cutChars? sep cs =
      if sep ∈ cs then some (cs.takeWhile (· != sep), (cs.dropWhile (· != sep)).tail)
      else none := by
  induction cs with
  | nil => rfl
  | cons first rest inductionHypothesis =>
    unfold cutChars?
    by_cases cut : first = sep
    · simp [cut]
    · have later : sep ∈ first :: rest ↔ sep ∈ rest := by simp [Ne.symm cut]
      rw [if_neg cut, inductionHypothesis, List.takeWhile_cons_of_pos (by simpa using cut),
        List.dropWhile_cons_of_pos (by simpa using cut)]
      by_cases occurs : sep ∈ rest
      · rw [if_pos occurs, if_pos (later.mpr occurs), Option.map_some]
      · rw [if_neg occurs, if_neg (mt later.mp occurs), Option.map_none]

/-- A text is cut where the separator stands for the first time, and nowhere else. -/
theorem cutChars?_eq_some_iff {sep : Char} {cs before after : List Char} :
    cutChars? sep cs = some (before, after) ↔ cs = before ++ sep :: after ∧ sep ∉ before := by
  induction cs generalizing before with
  | nil => simp [cutChars?]
  | cons first rest inductionHypothesis =>
    rw [cutChars?]
    by_cases cut : first = sep
    · subst cut
      cases before with
      | nil => simp
      | cons c before => simp +contextual
    · rw [if_neg cut, Option.map_eq_some_iff]
      cases before with
      | nil => simp [cut]
      | cons c before =>
        constructor
        · rintro ⟨⟨front, back⟩, found, same⟩
          cases same
          obtain ⟨split, absent⟩ := inductionHypothesis.mp found
          exact ⟨congrArg (first :: ·) split, List.not_mem_cons_of_ne_of_not_mem (Ne.symm cut) absent⟩
        · rintro ⟨split, absent⟩
          cases split
          exact ⟨_, inductionHypothesis.mpr ⟨rfl, List.not_mem_of_not_mem_cons absent⟩, rfl⟩

/-- A text is cut at the separator that no other stands before. -/
theorem cut?_eq_some_iff {sep : Char} {s before after : String} :
    cut? sep s = some (before, after) ↔
      s = before ++ String.singleton sep ++ after ∧ sep ∉ before.toList := by
  have split : s = before ++ String.singleton sep ++ after ↔
      s.toList = before.toList ++ sep :: after.toList := by
    rw [← String.toList_inj]
    simp
  rw [split, ← cutChars?_eq_some_iff, cut?, Option.map_eq_some_iff]
  constructor
  · rintro ⟨⟨front, back⟩, found, same⟩
    cases same
    simpa using found
  · intro found
    exact ⟨_, found, by simp⟩

/-- Whether two texts differ at a place that both reach. -/
def differs : List Char → List Char → Bool
  | c :: s, d :: t => c != d || differs s t
  | _, _ => false

/-- Texts that differ still do when they go on. -/
theorem differs_append {s t : List Char} (differ : differs s t = true) (rest back : List Char) :
    differs (s ++ rest) (t ++ back) = true := by
  induction s generalizing t with
  | nil => simp [differs] at differ
  | cons c s inductionHypothesis =>
    cases t with
    | nil => simp [differs] at differ
    | cons d t =>
      simp only [List.cons_append, differs, Bool.or_eq_true] at differ ⊢
      exact differ.imp id inductionHypothesis

/-- A text that differs from another is no beginning of it. -/
theorem not_prefix_of_differs {s t : List Char} (differ : differs s t = true) : ¬ s <+: t := by
  induction s generalizing t with
  | nil => simp [differs] at differ
  | cons c s inductionHypothesis =>
    cases t with
    | nil => simp
    | cons d t =>
      intro begins
      obtain ⟨rfl, later⟩ := List.cons_prefix_cons.mp begins
      simp only [differs, bne_self_eq_false, Bool.false_or] at differ
      exact inductionHypothesis differ later

/-- Whether no occurrence of a needle can begin in the front of a text: from each of its
places on the front differs from the needle. -/
def repels (needle : List Char) : List Char → Bool
  | [] => true
  | c :: rest => differs needle (c :: rest) && repels needle rest

/-- An occurrence lies wholly behind a front that repels it. -/
theorem infix_append_iff_of_repels {needle front : List Char} (clear : repels needle front = true)
    (back : List Char) : needle <:+: front ++ back ↔ needle <:+: back := by
  induction front with
  | nil => rfl
  | cons c rest inductionHypothesis =>
    simp only [repels, Bool.and_eq_true] at clear
    obtain ⟨differ, later⟩ := clear
    have elsewhere : ¬ needle <+: c :: (rest ++ back) := by
      have differs := differs_append differ [] back
      rw [List.append_nil] at differs
      exact not_prefix_of_differs differs
    rw [List.cons_append, List.infix_cons_iff, inductionHypothesis later]
    exact or_iff_right elsewhere

/-- What repels the start of a needle repels the needle. -/
theorem repels_append {start front : List Char} (clear : repels start front = true)
    (rest : List Char) : repels (start ++ rest) front = true := by
  induction front with
  | nil => rfl
  | cons c front inductionHypothesis =>
    simp only [repels, Bool.and_eq_true] at clear ⊢
    obtain ⟨differ, later⟩ := clear
    have differs := differs_append differ rest []
    rw [List.append_nil] at differs
    exact ⟨differs, inductionHypothesis later⟩

/-- A front without the first character of a needle repels it. -/
theorem repels_of_not_mem {first : Char} {needle front : List Char} (absent : first ∉ front) :
    repels (first :: needle) front = true := by
  induction front with
  | nil => rfl
  | cons c rest inductionHypothesis =>
    have other : first ≠ c := fun same => absent (same ▸ List.mem_cons_self)
    have later : first ∉ rest := fun member => absent (List.mem_cons_of_mem c member)
    simp [repels, differs, other, inductionHypothesis later]

/-- A beginning without a character lies wholly before the first place of that character. -/
theorem prefix_append_cons_iff {start front back : List Char} {c : Char} (absent : c ∉ start) :
    start <+: front ++ c :: back ↔ start <+: front := by
  constructor
  · intro begins
    -- of two beginnings of one text, one is a beginning of the other
    rcases List.prefix_or_prefix_of_prefix begins (List.prefix_append front (c :: back)) with
      inside | ⟨rest, rfl⟩
    · exact inside
    · cases rest with
      | nil => simp
      | cons d rest =>
        have meets := (List.prefix_append_right_inj front).mp begins
        obtain ⟨rfl, -⟩ := List.cons_prefix_cons.mp meets
        exact absurd (by simp) absent
  · intro begins
    exact begins.trans (List.prefix_append front (c :: back))

end VmLaunch.Text
