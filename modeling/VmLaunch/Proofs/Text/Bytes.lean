import Mathlib.Data.List.Basic
import VmLaunch.Proofs.Text.Escape

/-!
# Texts as bytes

The bytes of a text are those of its characters in UTF-8. They are ordered as the characters are,
so that texts are sorted alike by either, and a character beyond ASCII has only bytes beyond ASCII.
-/

namespace VmLaunch.Text

/-- The bytes of a text. -/
def bytes (s : String) : List UInt8 :=
  s.toUTF8.toList

/-- The bytes of a text are those of its characters one after the other. -/
theorem bytes_eq_flatMap (s : String) : bytes s = s.toList.flatMap String.utf8EncodeChar :=
  Percent.toList_toUTF8 s

section Order

/-- The lesser of two numbers has the lesser digit at the first place where they differ. -/
theorem digits_lt {m n : Nat} (before : m < n) :
    m / 262144 < n / 262144 ∨ m / 262144 = n / 262144 ∧
      (m / 4096 % 64 < n / 4096 % 64 ∨ m / 4096 % 64 = n / 4096 % 64 ∧
        (m / 64 % 64 < n / 64 % 64 ∨ m / 64 % 64 = n / 64 % 64 ∧ m % 64 < n % 64)) := by
  omega

/-- The bytes of the lesser of two characters come first, whatever follows them. -/
theorem utf8EncodeChar_append_lt {c d : Char} (before : c < d) (xs ys : List UInt8) :
    String.utf8EncodeChar c ++ xs < String.utf8EncodeChar d ++ ys := by
  have numbers : c.val.toNat < d.val.toNat := UInt32.lt_iff_toNat_lt.mp before
  have last : d.val.toNat < 0x110000 := by
    rcases d.valid with low | high
    · exact Nat.lt_trans low (by decide)
    · exact high.2
  have digits := digits_lt numbers
  simp only [String.utf8EncodeChar]
  -- The first byte tells how many there are; of equally many each holds one digit.
  split_ifs <;>
    simp (disch := omega) only [List.cons_append, List.nil_append, List.cons_lt_cons_iff,
      UInt8.lt_iff_toNat_lt, ← UInt8.toNat_inj, UInt8.toNat_ofNat', Nat.mod_eq_of_lt] <;>
    omega

/-- Every character has a byte. -/
theorem utf8EncodeChar_ne_nil (c : Char) : String.utf8EncodeChar c ≠ [] := by
  simp only [String.utf8EncodeChar]
  split_ifs <;> exact List.cons_ne_nil _ _

/-- Bytes that begin alike are in the order of what follows. -/
theorem append_lt_append_iff {xs ys : List UInt8} (common : List UInt8) :
    common ++ xs < common ++ ys ↔ xs < ys := by
  induction common with
  | nil => rfl
  | cons b rest inductionHypothesis => simp [inductionHypothesis]

/-- Texts are encoded in the order of their characters. -/
theorem flatMap_utf8EncodeChar_lt {cs ds : List Char} (before : cs < ds) :
    cs.flatMap String.utf8EncodeChar < ds.flatMap String.utf8EncodeChar := by
  induction before with
  | @nil d ds =>
    obtain ⟨first, rest, found⟩ := List.exists_cons_of_ne_nil (utf8EncodeChar_ne_nil d)
    rw [List.flatMap_cons, found]
    exact List.nil_lt_cons _ _
  | rel earlier => exact utf8EncodeChar_append_lt earlier _ _
  | @cons c cs ds _ inductionHypothesis =>
    exact (append_lt_append_iff (String.utf8EncodeChar c)).mpr inductionHypothesis

/-- The lesser of two texts has the lesser bytes. -/
theorem bytes_lt_bytes {s t : String} (before : s < t) : bytes s < bytes t := by
  rw [bytes_eq_flatMap, bytes_eq_flatMap]
  exact flatMap_utf8EncodeChar_lt before

end Order

section Ascii

/-- The bytes of an ASCII text are its characters. -/
theorem bytes_of_ascii {s : String} (ascii : ∀ c ∈ s.toList, c.toNat < 128) :
    bytes s = s.toList.map Percent.code := by
  have known := Percent.toList_toUTF8_of_ascii ascii
  rwa [String.ofList_toList] at known

/-- A character beyond ASCII has a byte beyond ASCII. -/
theorem exists_byte_beyond {c : Char} (beyond : 128 ≤ c.toNat) :
    ∃ b ∈ String.utf8EncodeChar c, 128 ≤ b.toNat := by
  have large : ¬ c.val.toNat ≤ 127 := Nat.not_le.mpr beyond
  simp only [String.utf8EncodeChar, if_neg large]
  split_ifs <;>
  · refine ⟨_, List.mem_cons_self, ?_⟩
    rw [UInt8.toNat_ofNat']
    omega

/-- A text whose bytes are all ASCII is ASCII. -/
theorem ascii_of_bytes {s : String} (small : ∀ b ∈ bytes s, b.toNat < 128) {c : Char}
    (member : c ∈ s.toList) : c.toNat < 128 := by
  by_contra beyond
  obtain ⟨b, among, large⟩ := exists_byte_beyond (Nat.not_lt.mp beyond)
  have byte : b ∈ bytes s := by
    rw [bytes_eq_flatMap]
    exact List.mem_flatMap.mpr ⟨c, member, among⟩
  exact absurd (small b byte) (Nat.not_lt.mpr large)

end Ascii

end VmLaunch.Text
