import VmLaunch.Proofs.Url.Origin

/-!
# Parts of a text

A text is cut at the first of each mark, and characters that are never dropped count as they stand.
-/

namespace VmLaunch.Url

variable {mark : Char} {cs : List Char}

/-- Nothing is cut where the mark does not stand. -/
theorem cutAt_of_not_mem (absent : mark ∉ cs) : cutAt mark cs = (cs, none) := by
  rw [cutAt, Text.cutChars?_eq, if_neg absent]

/-- A text is cut at the mark that no other stands before. -/
theorem cutAt_append_cons {front : List Char} (absent : mark ∉ front) (back : List Char) :
    cutAt mark (front ++ mark :: back) = (front, some back) := by
  have before : ∀ c ∈ front, (c != mark) = true := fun c member => by
    simpa using ne_of_mem_of_not_mem member absent
  rw [cutAt, Text.cutChars?_eq, if_pos (by simp)]
  simp [List.takeWhile_append_of_pos before, List.dropWhile_append_of_pos before]

/-- What is dropped at the head of a text goes no further than a character that stays. -/
theorem dropWhile_concat {p : Char → Bool} {c : Char} (stays : p c = false) (cs : List Char) :
    (cs ++ [c]).dropWhile p = cs.dropWhile p ++ [c] := by
  rw [List.dropWhile_append]
  split
  next all =>
    rw [List.isEmpty_iff.mp all, List.dropWhile_cons_of_neg (by simp [stays]), List.nil_append]
  next => rfl

/-- A last character that stops changes nothing of what is taken. -/
theorem takeWhile_concat {p : Char → Bool} {c : Char} (stops : p c = false) (cs : List Char) :
    (cs ++ [c]).takeWhile p = cs.takeWhile p := by
  rw [List.takeWhile_append]
  split
  next all =>
    rw [(List.takeWhile_prefix _).eq_of_length all, List.takeWhile_cons_of_neg (by simp [stops]),
      List.append_nil]
  next => rfl

end VmLaunch.Url
