import VmLaunch.Http.Status
import VmLaunch.Proofs.Text.Casing
import VmLaunch.Proofs.Text.Occurrence

/-!
# The words of a status

A status is written as its code and a phrase, all of it in ASCII. Among the codes of
responses only that of a conflict begins with the digits of a conflict.
-/

namespace VmLaunch

namespace Status

/-- The status of a request for something that is there already. -/
def conflict : Nat := 409

/-- What holds of the standard phrases and of the one for other codes holds of every phrase. -/
theorem phrase_forall (holds : String → Prop) (standard : ∀ entry ∈ phrases, holds entry.2)
    (other : holds "<unknown status code>") (code : Nat) : holds (phrase code) := by
  unfold phrase
  cases found : phrases.lookup code with
  | none => exact other
  | some text =>
    obtain ⟨front, back, split, -⟩ := List.lookup_eq_some_iff.mp found
    have listed : (code, text) ∈ phrases := by
      rw [split]
      exact List.mem_append_right front List.mem_cons_self
    exact standard _ listed

/-- The text of a status is its digits, a space and its phrase. -/
theorem toList_text (code : Nat) :
    (text code).toList = Nat.toDigits 10 code ++ ' ' :: (phrase code).toList := by
  simp [text, Nat.toString_eq_repr, Nat.toList_repr]

/-- The digits of a code are small characters, and their own lower-case forms. -/
theorem small_digit {code : Nat} {c : Char} (member : c ∈ Nat.toDigits 10 code) :
    c.toNat ≤ 57 ∧ c.toLower = c := by
  have digit := Nat.isDigit_of_mem_toDigits (by decide) (by decide) member
  simp only [Char.isDigit, Bool.and_eq_true, decide_eq_true_eq, ge_iff_le] at digit
  obtain ⟨lower, upper⟩ := digit
  have small : c.toNat ≤ 57 := upper
  have uncapital : ¬ (c.val ≥ 'A'.val ∧ c.val ≤ 'Z'.val) := by
    rintro ⟨capital, -⟩
    have large : 65 ≤ c.toNat := capital
    omega
  exact ⟨small, dif_neg uncapital⟩

/-- A status is written in ASCII. -/
theorem ascii_text (code : Nat) : Text.isAsciiText (text code) = true := by
  have words : Text.isAsciiText (phrase code) = true :=
    phrase_forall (fun words => Text.isAsciiText words = true) (by decide +kernel)
      (by decide +kernel) code
  rw [Text.isAsciiText_iff] at words ⊢
  intro c member
  rw [toList_text] at member
  rcases List.mem_append.mp member with digit | rest
  · have small := (small_digit digit).1
    omega
  · rcases List.mem_cons.mp rest with rfl | word
    · decide
    · exact words c word

/-- Among codes of at most three digits only that of a conflict begins with its digits. -/
theorem conflict_prefix_iff {code : Nat} (standard : code < 1000) (rest : List Char) :
    ['4', '0', '9'] <+: Nat.toDigits 10 code ++ ' ' :: rest ↔ code = conflict := by
  rw [Text.prefix_append_cons_iff (by decide)]
  constructor
  · intro begins
    have short : (Nat.toDigits 10 code).length ≤ 3 :=
      (Nat.length_toDigits_le_iff (by decide) (by decide)).mpr standard
    have same : Nat.toDigits 10 conflict = Nat.toDigits 10 code := begins.eq_of_length_le short
    have read := congrArg (fun digits => Nat.ofDigitChars 10 digits 0) same
    simpa using read.symm
  · rintro rfl
    exact List.prefix_refl _

end Status

end VmLaunch
