import Mathlib.Data.List.Basic
import VmLaunch.Names

/-!
# Instance names

An instance name begins with a letter and goes on with name characters, and a hyphen ends it only
below full length. What is appended to a name must keep to the same characters and leave it short
enough.
-/

namespace VmLaunch

/-- What is asked of the text of an instance name. -/
structure InstanceName (name : String) : Prop where
  chars : ∀ c ∈ name.toList, isNameChar c = true
  head : ∃ c ∈ name.toList.head?, isLowerLetter c = true
  short : name.length ≤ 63
  last : name.length = 63 → name.toList.getLast? ≠ some '-'

variable {name tail : String}

/-- The check of a name is that it has the form of one. -/
theorem isInstanceName_iff : isInstanceName name = true ↔ InstanceName name := by
  have parts : InstanceName name ↔ (∀ c ∈ name.toList, isNameChar c = true) ∧
      (∃ c ∈ name.toList.head?, isLowerLetter c = true) ∧ name.toList.length ≤ 63 ∧
        (name.toList.length = 63 → name.toList.getLast? ≠ some '-') := by
    rw [String.length_toList]
    exact ⟨fun named => ⟨named.chars, named.head, named.short, named.last⟩,
      fun ⟨chars, head, short, last⟩ => ⟨chars, head, short, last⟩⟩
  rw [parts, isInstanceName]
  cases name.toList with
  | nil => simp
  | cons first rest =>
    have short : (first :: rest).length ≤ 63 ↔ rest.length ≤ 62 := Nat.succ_le_succ_iff
    have full : (first :: rest).length = 63 ↔ rest.length = 62 := Nat.succ_inj
    have last : rest.length = 62 → (first :: rest).getLast? = rest.getLast? := by
      intro long
      obtain ⟨next, others, rfl⟩ := List.exists_cons_of_length_pos (l := rest) (by omega)
      exact List.getLast?_cons_cons
    have ended : (rest.length = 62 → (first :: rest).getLast? ≠ some '-') ↔
        (rest.length = 62 → rest.getLast? ≠ some '-') :=
      forall_congr' fun long => by rw [last long]
    rw [short, full, ended]
    simp only [Bool.and_eq_true, decide_eq_true_eq, List.all_eq_true, Bool.not_eq_true',
      Bool.and_eq_false_imp, beq_iff_eq, beq_eq_false_iff_ne, List.head?_cons, Option.mem_some,
      exists_eq_left']
    constructor
    · rintro ⟨⟨⟨short, head⟩, chars⟩, last⟩
      exact ⟨chars, head, short, last⟩
    · rintro ⟨chars, head, short, last⟩
      exact ⟨⟨⟨short, head⟩, chars⟩, last⟩

/-- A name stays one behind which name characters stand, if it does not become too long. -/
theorem isInstanceName_append_iff (named : isInstanceName name = true)
    (chars : ∀ c ∈ tail.toList, isNameChar c = true)
    (last : ∃ c ∈ tail.toList.getLast?, c ≠ '-') :
    isInstanceName (name ++ tail) = true ↔ (name ++ tail).length ≤ 63 := by
  rw [isInstanceName_iff] at named ⊢
  refine ⟨InstanceName.short, fun short => ?_⟩
  obtain ⟨final, standing, visible⟩ := last
  constructor
  case chars =>
    rw [String.toList_append]
    exact List.forall_mem_append.mpr ⟨named.chars, chars⟩
  case head =>
    obtain ⟨first, begins, letter⟩ := named.head
    refine ⟨first, ?_, letter⟩
    rw [String.toList_append, List.head?_append, Option.mem_def.mp begins]
    rfl
  case short => exact short
  case last =>
    intro _ hyphen
    rw [String.toList_append, List.getLast?_append, Option.mem_def.mp standing] at hyphen
    exact visible (Option.some.inj hyphen)

end VmLaunch
