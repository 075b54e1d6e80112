import VmLaunch.Text.Casing

/-!
# Lower case of joined texts

The lower-case form of a character may depend on its neighbours, but nothing is seen
through a character that is neither cased nor passed over. What stands behind such a
character is lowered as if it stood alone, and what stands before it in ASCII is lowered
character by character.
-/

namespace VmLaunch.Text

open CaseData

/-- Whether a text is written in ASCII. -/
def isAsciiText (s : String) : Bool :=
  s.toList.all fun c => c.toNat < 0x80

/-- A text is ASCII when each of its characters is. -/
theorem isAsciiText_iff {s : String} : isAsciiText s = true ↔ ∀ c ∈ s.toList, c.toNat < 0x80 := by
  simp [isAsciiText]

/-- A text in two parts is ASCII when both are. -/
theorem isAsciiText_append {s t : String} :
    isAsciiText (s ++ t) = true ↔ isAsciiText s = true ∧ isAsciiText t = true := by
  simp [isAsciiText]

/-- Whether a character ends the search for a cased neighbour without being one. -/
def seals (c : Char) : Bool :=
  !inRanges ignorableRanges c.toNat && !inRanges casedRanges c.toNat

/-- A search for a cased neighbour does not pass a seal. -/
theorem casedNext_append_seal {c : Char} (sealed : seals c = true) (near far : List Char) :
    casedNext (near ++ c :: far) = casedNext near := by
  simp only [seals, Bool.and_eq_true, Bool.not_eq_true'] at sealed
  obtain ⟨stops, uncased⟩ := sealed
  unfold casedNext
  induction near with
  | nil => simp [stops, uncased]
  | cons d near inductionHypothesis =>
    by_cases passed : inRanges ignorableRanges d.toNat = true
    · simpa [List.dropWhile_cons_of_pos, passed] using inductionHypothesis
    · simp [passed]

/-- Behind a seal a text is lowered as if nothing stood before it. -/
theorem lowerAfter_append_seal {c : Char} (sealed : seals c = true) (far : List Char)
    (before cs : List Char) : lowerAfter (before ++ c :: far) cs = lowerAfter before cs := by
  induction cs generalizing before with
  | nil => rfl
  | cons d rest inductionHypothesis =>
    have onward := inductionHypothesis (d :: before)
    rw [List.cons_append] at onward
    simp only [lowerAfter, casedNext_append_seal sealed, onward]

/-- ASCII characters are lowered one by one, whatever surrounds them. -/
theorem lowerAfter_append_of_ascii {front : List Char} (ascii : ∀ c ∈ front, c.toNat < 0x80)
    (before back : List Char) :
    lowerAfter before (front ++ back) =
      front.map Char.toLower ++ lowerAfter (front.reverse ++ before) back := by
  induction front generalizing before with
  | nil => rfl
  | cons c rest inductionHypothesis =>
    have small : c.toNat < 0x80 := ascii c List.mem_cons_self
    have other : c.toNat ≠ 0x3A3 := by omega
    have later := inductionHypothesis (fun d member => ascii d (List.mem_cons_of_mem c member))
      (c :: before)
    simp only [List.cons_append, lowerAfter, other, if_false, lowerChar, small, if_true, later,
      List.map_cons, List.reverse_cons, List.append_assoc, List.nil_append]

/-- A text behind an ASCII text is lowered as if it stood alone, if a seal stands between. -/
theorem lower_append_of_ascii {s t : String} (ascii : isAsciiText s = true)
    (sealed : t ≠ "" → s.toList.getLast?.all seals = true) :
    (lower (s ++ t)).toList = s.toList.map Char.toLower ++ (lower t).toList := by
  have behind : lowerAfter s.toList.reverse t.toList = lowerAfter [] t.toList := by
    by_cases vacant : t = ""
    · subst vacant
      rfl
    cases reversed : s.toList.reverse with
    | nil => rfl
    | cons c far =>
      have last : s.toList.getLast? = some c := by
        rw [List.getLast?_eq_head?_reverse, reversed]
        rfl
      have final := sealed vacant
      rw [last] at final
      exact lowerAfter_append_seal final far [] t.toList
  simp only [lower, String.toList_append, String.toList_ofList]
  rw [lowerAfter_append_of_ascii (isAsciiText_iff.mp ascii), List.append_nil, behind]

end VmLaunch.Text
