import VmLaunch.Decimal.Text

/-!
# Digits of natural numbers

The text of a natural number consists of decimal digits and says the number. Its first digit is a
zero for the number zero only.
-/

namespace VmLaunch.Binary64

/-- A number is written as its digits. -/
theorem toList_toString (n : Nat) : (toString n).toList = Nat.toDigits 10 n := by
  rw [Nat.toString_eq_repr, Nat.toList_repr]

/-- Nothing but digits stands in a number. -/
theorem isDigit_of_mem_toDigits {n : Nat} {c : Char} (member : c ∈ Nat.toDigits 10 n) :
    isDigit c = true :=
  Nat.isDigit_of_mem_toDigits (by decide) (by decide) member

/-- The text of a number begins with a digit. -/
theorem exists_toDigits_eq_cons (n : Nat) :
    ∃ first others, Nat.toDigits 10 n = first :: others ∧ ∀ c, isDigit c = false → first ≠ c := by
  obtain ⟨first, others, digits⟩ :=
    List.exists_cons_of_ne_nil (Nat.toDigits_ne_nil (n := n) (b := 10))
  refine ⟨first, others, digits, ?_⟩
  rintro c other rfl
  have digit := isDigit_of_mem_toDigits (n := n) (digits ▸ List.mem_cons_self)
  rw [digit] at other
  contradiction

/-- The digits of a number say the number. -/
theorem digitsValue_toDigits (n : Nat) : digitsValue (Nat.toDigits 10 n) = n := by
  have told := Nat.ofDigitChars_ten_toDigits (n := n)
  rwa [Nat.ofDigitChars_eq_foldl] at told

/-- A positive number is written without a zero in front. -/
theorem head?_toDigits_ne {n : Nat} (positive : 0 < n) : (Nat.toDigits 10 n).head? ≠ some '0' := by
  induction n using Nat.strongRecOn with
  | ind n ih =>
    by_cases small : n < 10
    · have single : ∀ m < 10, 0 < m → [m.digitChar].head? ≠ some '0' := by decide
      rw [Nat.toDigits_of_lt_base small]
      exact single n small positive
    · obtain ⟨first, rest, digits, -⟩ := exists_toDigits_eq_cons (n / 10)
      have shorter := ih (n / 10) (by omega) (by omega)
      rw [digits] at shorter
      rw [Nat.toDigits_of_base_le (by decide) (Nat.le_of_not_lt small), digits]
      exact shorter

end VmLaunch.Binary64
