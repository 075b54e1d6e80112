import Mathlib.Data.List.Basic
import VmLaunch.Proofs.Text.Blank
import VmLaunch.Reference

/-!
# Short names of paths

What follows the last separator of a path is the short name it was made from.
-/

namespace VmLaunch

namespace Text

/-- Nothing is cut where the separator does not stand. -/
theorem cutLastChars?_of_not_mem {sep : Char} {cs : List Char} (absent : sep ∉ cs) :
    cutLastChars? sep cs = none := by
  induction cs with
  | nil => rfl
  | cons c rest inductionHypothesis =>
    obtain ⟨other, later⟩ := List.ne_and_not_mem_of_not_mem_cons absent
    unfold cutLastChars?
    rw [inductionHypothesis later]
    exact if_neg (Ne.symm other)

/-- The last separator is the one that no other follows. -/
theorem cutLastChars?_append {sep : Char} {back : List Char} (absent : sep ∉ back)
    (front : List Char) :
    cutLastChars? sep (front ++ sep :: back) = some (front, back) := by
  induction front with
  | nil =>
    rw [List.nil_append]
    unfold cutLastChars?
    rw [cutLastChars?_of_not_mem absent]
    exact if_pos rfl
  | cons c rest inductionHypothesis =>
    rw [List.cons_append]
    unfold cutLastChars?
    rw [inductionHypothesis]

end Text

/-- A name without a separator is short as it is. -/
theorem shortName_of_not_mem {name : String} (plain : '/' ∉ name.toList) :
    shortName name = name := by
  unfold shortName Text.lastPiece Text.cutLast?
  rw [Text.cutLastChars?_of_not_mem plain]
  rfl

/-- The short name of a path is what was put below its parent. -/
theorem shortName_append {name : String} (plain : '/' ∉ name.toList) (parent : String) :
    shortName (parent ++ "/" ++ name) = name := by
  have split : (parent ++ "/" ++ name).toList = parent.toList ++ '/' :: name.toList := by
    simp
  unfold shortName Text.lastPiece Text.cutLast?
  rw [split, Text.cutLastChars?_append plain]
  exact String.ofList_toList

/-- Blanks around a path do not hide the name at its end. -/
theorem shortName_trim_append {name : String} (tidy : Text.Tidy name)
    (plain : '/' ∉ name.toList) (parent : String) :
    shortName (Text.trim (parent ++ "/" ++ name)) = name := by
  have filled : name.toList ≠ [] := fun vacant => tidy.filled (String.toList_eq_nil_iff.mp vacant)
  have trimmed : Text.trim (parent ++ "/" ++ name) =
      String.ofList (parent.toList.dropWhile Text.isBlank) ++ "/" ++ name := by
    have split : (parent ++ "/" ++ name).toList = parent.toList ++ '/' :: name.toList := by simp
    refine String.toList_inj.mp ?_
    rw [Text.trim, split, Text.trimChars_append (by decide) filled tidy.last]
    simp
  rw [trimmed, shortName_append plain]

/-- To trim a text neither adds nor drops separators. -/
theorem mem_trim_slash_iff (text : String) :
    '/' ∈ (Text.trim text).toList ↔ '/' ∈ text.toList :=
  Text.mem_trim_iff (by decide) text

/-- Blank text has no separator. -/
theorem not_mem_of_blank {text : String} (blank : Text.blank text) : '/' ∉ text.toList := by
  rw [← mem_trim_slash_iff, beq_iff_eq.mp blank]
  simp

/-- Text with a separator is a path already. -/
theorem qualify_of_mem {text : String} (separated : '/' ∈ text.toList) (parent : String) :
    qualify parent text = text := by
  unfold qualify Reference.parse Text.hasChar
  rw [if_pos (List.contains_iff_mem.mpr separated)]
  rfl

/-- Text without separator is put below the parent without the blanks around it. -/
theorem qualify_of_not_mem {text : String} (plain : '/' ∉ text.toList) (parent : String) :
    qualify parent text = parent ++ "/" ++ Text.trim text := by
  unfold qualify Reference.parse Text.hasChar
  rw [if_neg (by simpa using plain)]
  rfl

/-- Text without separator and without blanks around it is put below the parent as it stands. -/
theorem qualify_of_plain {name : String} (plain : '/' ∉ name.toList)
    (trimmed : Text.trim name = name) (parent : String) :
    qualify parent name = parent ++ "/" ++ name := by
  rw [qualify_of_not_mem plain, trimmed]

/-- A qualified name has a separator. -/
theorem slash_mem_qualify (parent text : String) : '/' ∈ (qualify parent text).toList := by
  by_cases separated : '/' ∈ text.toList
  · rwa [qualify_of_mem separated]
  · rw [qualify_of_not_mem separated]
    simp

/-- A path has no blanks around it if neither the text nor its parent begins or ends with any. -/
theorem tidy_qualify {parent text : String}
    (visible : ∀ c ∈ (parent ++ "/").toList.head?, Text.isBlank c = false)
    (tidy : Text.Tidy text) : Text.Tidy (qualify parent text) := by
  by_cases separated : '/' ∈ text.toList
  · rwa [qualify_of_mem separated]
  · have chars : (parent ++ "/" ++ text).toList = (parent ++ "/").toList ++ text.toList :=
      String.toList_append
    have started : (parent ++ "/").toList ≠ [] := by simp
    have filled : text.toList ≠ [] := String.toList_eq_nil_iff.not.mpr tidy.filled
    rw [qualify_of_not_mem separated, tidy.trim_eq]
    constructor
    case filled => simp
    case head => rwa [chars, List.head?_append_of_ne_nil _ started]
    case last =>
      rw [chars, List.getLast?_append_of_ne_nil _ filled]
      exact tidy.last

/-- The path of a short name ends in that name. -/
theorem shortName_qualify {text : String} (plain : '/' ∉ text.toList) (parent : String) :
    shortName (qualify parent text) = Text.trim text := by
  rw [qualify_of_not_mem plain]
  exact shortName_append ((mem_trim_slash_iff text).not.mpr plain) parent

/-- The path of a disk type ends in the type, also without a scope. -/
theorem shortName_diskTypePath_of_plain {name : String} (plain : '/' ∉ name.toList)
    (trimmed : Text.trim name = name) (project zone : String) :
    shortName (diskTypePath name project zone) = name := by
  unfold diskTypePath
  split
  · exact shortName_of_not_mem plain
  · rw [shortName_qualify plain, trimmed]

end VmLaunch
