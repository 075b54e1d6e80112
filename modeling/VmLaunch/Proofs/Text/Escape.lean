import VmLaunch.Proofs.Text.Percent

/-!
# Texts with escapes

A text `Spells` bytes when each of its characters stands for itself or belongs to an escape, a
percent sign with two hexadecimal digits. Such a text is decoded to the bytes that it spells, and
what is encoded spells the bytes that it was made of.
-/

namespace VmLaunch.Percent

/-- Whether a character never needs to be escaped. -/
def isUnreserved (c : Char) : Bool :=
  c.isAlphanum || c == '-' || c == '.' || c == '_' || c == '~'

/-- The bytes that a text spells. -/
inductive Spells (stands : Char → Bool) : List Char → List UInt8 → Prop where
  | nil : Spells stands [] []
  | plain {c rest bytes} (kept : stands c = true) (spells : Spells stands rest bytes) :
      Spells stands (c :: rest) (code c :: bytes)
  | escape {high low h l rest bytes} (upper : Written.hexValue? high = some h)
      (lower : Written.hexValue? low = some l) (spells : Spells stands rest bytes) :
      Spells stands ('%' :: high :: low :: rest) (UInt8.ofNat (16 * h + l) :: bytes)

variable {stands : Char → Bool} {cs : List Char} {bytes : List UInt8}

/-- Spelled texts one after the other spell their bytes one after the other. -/
theorem Spells.append {others : List Char} {more : List UInt8} (spells : Spells stands cs bytes)
    (after : Spells stands others more) : Spells stands (cs ++ others) (bytes ++ more) := by
  induction spells with
  | nil => exact after
  | plain kept _ inductionHypothesis => exact .plain kept inductionHypothesis
  | escape upper lower _ inductionHypothesis => exact .escape upper lower inductionHypothesis

/-- The characters of a text with escapes stand for themselves or belong to an escape. -/
theorem Spells.cases_mem {c : Char} (spells : Spells stands cs bytes) (member : c ∈ cs) :
    stands c = true ∨ c = '%' ∨ ∃ value, Written.hexValue? c = some value := by
  induction spells with
  | nil => cases member
  | plain kept _ inductionHypothesis =>
    rcases List.mem_cons.mp member with rfl | later
    · exact .inl kept
    · exact inductionHypothesis later
  | escape upper lower _ inductionHypothesis =>
    simp only [List.mem_cons] at member
    rcases member with rfl | rfl | rfl | later
    · exact .inr (.inl rfl)
    · exact .inr (.inr ⟨_, upper⟩)
    · exact .inr (.inr ⟨_, lower⟩)
    · exact inductionHypothesis later

/-- What holds of each of the first 128 characters holds of ASCII characters. -/
theorem ascii_forall {p : Char → Prop} (each : ∀ n : Fin 128, p (Char.ofNat n)) {c : Char}
    (ascii : c.toNat < 128) : p c := by
  have found := each ⟨c.toNat, ascii⟩
  rwa [Char.ofNat_toNat] at found

/-- Letters and digits are ASCII. -/
theorem ascii_of_isAlphanum {c : Char} (plain : c.isAlphanum = true) : c.toNat < 128 := by
  have ranges : (decide (c.val ≥ 'A'.val ∧ c.val ≤ 'Z'.val) ||
      (decide (c.val ≥ 'a'.val) && decide (c.val ≤ 'z'.val)) ||
      (decide (c.val ≥ '0'.val) && decide (c.val ≤ '9'.val))) = true := plain
  have code : c.toNat = c.val.toNat := rfl
  simp [UInt32.le_iff_toNat_le] at ranges
  omega

/-- Unreserved characters are ASCII. -/
theorem ascii_of_isUnreserved {c : Char} (plain : isUnreserved c = true) : c.toNat < 128 := by
  simp only [isUnreserved, Bool.or_eq_true, beq_iff_eq] at plain
  rcases plain with (((plain | rfl) | rfl) | rfl) | rfl
  · exact ascii_of_isAlphanum plain
  all_goals decide

/-- A character that is never escaped is none of the others. -/
theorem ne_of_isUnreserved {c mark : Char} (plain : isUnreserved c = true)
    (other : isUnreserved mark = false) : c ≠ mark := by
  rintro rfl
  rw [plain] at other
  cases other

/-- Hexadecimal digits are ASCII. -/
theorem ascii_of_hexValue? {c : Char} {value : Nat} (digit : Written.hexValue? c = some value) :
    c.toNat < 128 := by
  unfold Written.hexValue? at digit
  simp only [Bool.and_eq_true, decide_eq_true_eq, Char.le_def, UInt32.le_iff_toNat_le] at digit
  split at digit
  · simp at *
    omega
  split at digit
  · simp at *
    omega
  split at digit
  · simp at *
    omega
  · cases digit

/-- A hexadecimal digit is a digit or a letter. -/
theorem isAlphanum_of_hexValue? {c : Char} {value : Nat}
    (digit : Written.hexValue? c = some value) : c.isAlphanum = true := by
  have each := ascii_forall (p := fun c => (Written.hexValue? c).isSome = true →
    c.isAlphanum = true) (by decide) (ascii_of_hexValue? digit)
  exact each (by rw [digit, Option.isSome_some])

/-- The byte of a hexadecimal digit has the value of the digit. -/
theorem digit?_code {c : Char} {value : Nat} (digit : Written.hexValue? c = some value) :
    digit? (code c) = some value := by
  have ascii := ascii_of_hexValue? digit
  have small : code c < 0x80 := by
    rw [UInt8.lt_iff_toNat_lt, code, UInt8.toNat_ofNat']
    exact Nat.lt_of_le_of_lt (Nat.mod_le _ _) ascii
  rw [digit?, if_pos small, ofNat_code ascii, digit]

/-- A text with escapes is decoded to the bytes that it spells. -/
theorem Spells.decodeBytes_eq (escapes : stands '%' = false)
    (ascii : ∀ c, stands c = true → c.toNat < 128) (spells : Spells stands cs bytes) :
    decodeBytes (cs.map code) = bytes := by
  induction spells with
  | nil => rfl
  | @plain c rest bytes kept _ inductionHypothesis =>
    have other : code c ≠ 0x25 := by
      intro same
      have percent : c = '%' := by
        rw [← ofNat_code (ascii c kept), same]
        rfl
      rw [percent, escapes] at kept
      cases kept
    rw [List.map_cons, decodeBytes_cons_of_ne other, inductionHypothesis]
  | escape upper lower _ inductionHypothesis =>
    have percent : code '%' = 0x25 := rfl
    simp [decodeBytes, percent, digit?_code upper, digit?_code lower, inductionHypothesis]

variable {keeps : UInt8 → Bool}

/-- What a byte is encoded to spells that byte. -/
theorem spells_encodeByte (kept : ∀ b, keeps b = true → stands (Char.ofNat b.toNat) = true)
    (b : UInt8) : Spells stands (encodeByte keeps b) [b] := by
  have digit : ∀ n, Written.hexValue? (upperHex n) = some (n % 16) := by
    intro n
    have digits : ∀ d : Fin 16, Written.hexValue? (Nat.digitChar d).toUpper = some d.val := by
      decide
    exact digits ⟨n % 16, Nat.mod_lt n (by decide)⟩
  unfold encodeByte
  by_cases stays : keeps b = true
  · rw [if_pos stays]
    have spelled : Spells stands [Char.ofNat b.toNat] [code (Char.ofNat b.toNat)] :=
      .plain (kept b stays) .nil
    rwa [code_ofNat] at spelled
  · rw [if_neg stays]
    have whole : 16 * (b.toNat / 16 % 16) + b.toNat % 16 = b.toNat := by
      have small : b.toNat < 256 := b.toNat_lt
      omega
    have spelled : Spells stands (escape b)
        [UInt8.ofNat (16 * (b.toNat / 16 % 16) + b.toNat % 16)] :=
      .escape (digit _) (digit _) .nil
    rwa [whole, UInt8.ofNat_toNat] at spelled

/-- What a text is encoded to spells its bytes. -/
theorem spells_encodeChars (kept : ∀ b, keeps b = true → stands (Char.ofNat b.toNat) = true)
    (s : String) : Spells stands (encodeChars keeps s) s.toUTF8.toList := by
  unfold encodeChars
  induction s.toUTF8.toList with
  | nil => exact .nil
  | cons b rest inductionHypothesis =>
    rw [List.flatMap_cons]
    exact (spells_encodeByte kept b).append inductionHypothesis

/-- A text that spells the bytes of another is decoded to it. -/
theorem Spells.decode?_eq (escapes : stands '%' = false)
    (ascii : ∀ c, stands c = true → c.toNat < 128) {s : String}
    (spells : Spells stands cs s.toUTF8.toList) : decode? (String.ofList cs) = some s := by
  have each : ∀ c ∈ cs, c.toNat < 128 := by
    intro c member
    rcases spells.cases_mem member with kept | rfl | ⟨value, digit⟩
    · exact ascii c kept
    · decide
    · exact ascii_of_hexValue? digit
  rw [decode?, toList_toUTF8_of_ascii each, spells.decodeBytes_eq escapes ascii]
  have bytes : (⟨s.toUTF8.toList.toArray⟩ : ByteArray) = s.toUTF8 := by
    rw [toList_eq_data]
  rw [bytes]
  exact dif_pos s.isValidUTF8

end VmLaunch.Percent
