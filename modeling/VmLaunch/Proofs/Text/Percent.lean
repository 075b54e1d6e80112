import VmLaunch.Text.Percent

/-!
# Reading percent encoding back

An encoded text is decoded to the bytes that it was made of, as long as the percent sign
itself is escaped. So different texts have different encodings.
-/

namespace VmLaunch

namespace Percent

/-- The byte of a character of an encoded text. -/
def code (c : Char) : UInt8 :=
  UInt8.ofNat c.toNat

/-- The byte of the character with the number of a byte is that byte. -/
theorem code_ofNat (b : UInt8) : code (Char.ofNat b.toNat) = b := by
  have small : b.toNat < 256 := b.toNat_lt
  have valid : b.toNat.isValidChar := .inl (by omega)
  have same : (Char.ofNat b.toNat).toNat = b.toNat := by
    rw [Char.ofNat, dif_pos valid]
    rfl
  rw [code, same, UInt8.ofNat_toNat]

/-- The digit that is written has the value that is read. -/
theorem digit?_upperHex (n : Nat) : digit? (code (upperHex n)) = some (n % 16) := by
  have digits : ∀ d : Fin 16, digit? (code (Nat.digitChar d).toUpper) = some d.val := by decide
  exact digits ⟨n % 16, Nat.mod_lt n (by decide)⟩

/-- A byte other than the percent sign is decoded to itself. -/
theorem decodeBytes_cons_of_ne {b : UInt8} (other : b ≠ 0x25) (rest : List UInt8) :
    decodeBytes (b :: rest) = b :: decodeBytes rest := by
  match rest with
  | [] => rfl
  | [_] => rfl
  | _ :: _ :: _ => simp [decodeBytes, other]

variable {keeps : UInt8 → Bool}

/-- What a byte is encoded to is decoded to that byte, whatever follows. -/
theorem decodeBytes_encodeByte (escapes : keeps 0x25 = false) (b : UInt8) (rest : List UInt8) :
    decodeBytes ((encodeByte keeps b).map code ++ rest) = b :: decodeBytes rest := by
  unfold encodeByte
  by_cases kept : keeps b
  · have other : b ≠ 0x25 := by
      rintro rfl
      rw [escapes] at kept
      cases kept
    rw [if_pos kept]
    simp only [List.map_cons, List.map_nil, List.cons_append, List.nil_append, code_ofNat]
    exact decodeBytes_cons_of_ne other rest
  · rw [if_neg kept]
    have percent : code '%' = 0x25 := rfl
    have whole : 16 * (b.toNat / 16 % 16) + b.toNat % 16 = b.toNat := by
      have small : b.toNat < 256 := b.toNat_lt
      omega
    simp [escape, decodeBytes, percent, digit?_upperHex, whole]

/-- Encoded bytes are decoded to what they were. -/
theorem decodeBytes_flatMap_encodeByte (escapes : keeps 0x25 = false) (bytes : List UInt8) :
    decodeBytes ((bytes.flatMap (encodeByte keeps)).map code) = bytes := by
  induction bytes with
  | nil => rfl
  | cons b rest inductionHypothesis =>
    rw [List.flatMap_cons, List.map_append, decodeBytes_encodeByte escapes, inductionHypothesis]

private theorem toList_loop_eq (bytes : ByteArray) (i : Nat) (read : List UInt8) :
    ByteArray.toList.loop bytes i read = read.reverse ++ bytes.data.toList.drop i := by
  induction i, read using ByteArray.toList.loop.induct bytes with
  | case1 i read within inductionHypothesis =>
    have bound : i < bytes.data.toList.length := by simpa using within
    have byte : bytes.get! i = bytes.data.toList[i] := by
      rw [Array.getElem_toList]
      exact getElem!_pos bytes.data i (by simpa using within)
    rw [ByteArray.toList.loop, if_pos within, inductionHypothesis,
      List.drop_eq_getElem_cons bound, byte, List.reverse_cons, List.append_assoc,
      List.singleton_append]
  | case2 i read beyond =>
    have bound : bytes.data.toList.length ≤ i := by simpa using beyond
    rw [ByteArray.toList.loop, if_neg beyond, List.drop_eq_nil_of_le bound, List.append_nil]

/-- The bytes of an array as a list are those that it holds. -/
theorem toList_eq_data (bytes : ByteArray) : bytes.toList = bytes.data.toList := by
  rw [ByteArray.toList, toList_loop_eq, List.reverse_nil, List.nil_append, List.drop_zero]

/-- The bytes of a text are those of its characters. -/
theorem toList_toUTF8 (s : String) : s.toUTF8.toList = s.toList.flatMap String.utf8EncodeChar := by
  have bytes : s.toUTF8 = (s.toList.flatMap String.utf8EncodeChar).toByteArray :=
    String.utf8Encode_toList.symm
  rw [bytes, toList_eq_data]
  simp

/-- An ASCII character is one byte. -/
theorem toList_toUTF8_of_ascii {cs : List Char} (ascii : ∀ c ∈ cs, c.toNat < 128) :
    (String.ofList cs).toUTF8.toList = cs.map code := by
  rw [toList_toUTF8, String.toList_ofList]
  induction cs with
  | nil => rfl
  | cons c rest inductionHypothesis =>
    have small : c.val.toNat ≤ 127 := Nat.le_of_lt_succ (ascii c List.mem_cons_self)
    have byte : String.utf8EncodeChar c = [code c] := by
      simp only [String.utf8EncodeChar, small, if_true]
      rfl
    rw [List.flatMap_cons, byte, List.map_cons,
      inductionHypothesis fun d member => ascii d (List.mem_cons_of_mem c member)]
    rfl

/-- An ASCII character has the number of its byte. -/
theorem ofNat_code {c : Char} (ascii : c.toNat < 128) : Char.ofNat (code c).toNat = c := by
  have same : (code c).toNat = c.toNat := by
    rw [code, UInt8.toNat_ofNat']
    exact Nat.mod_eq_of_lt (Nat.lt_trans ascii (by decide))
  rw [same, Char.ofNat_toNat]

/-- A text whose characters all stand for themselves is its own encoding. -/
theorem encode_of_kept {cs : List Char} (ascii : ∀ c ∈ cs, c.toNat < 128)
    (kept : ∀ c ∈ cs, keeps (code c) = true) :
    encode keeps (String.ofList cs) = String.ofList cs := by
  rw [encode, encodeChars, toList_toUTF8_of_ascii ascii, List.flatMap_map]
  congr 1
  induction cs with
  | nil => rfl
  | cons c rest inductionHypothesis =>
    have stays : encodeByte keeps (code c) = [c] := by
      rw [encodeByte, if_pos (kept c List.mem_cons_self), ofNat_code (ascii c List.mem_cons_self)]
    rw [List.flatMap_cons, stays, inductionHypothesis
      (fun d member => ascii d (List.mem_cons_of_mem c member))
      (fun d member => kept d (List.mem_cons_of_mem c member))]
    rfl

/-- Texts with the same bytes are the same. -/
theorem toList_toUTF8_injective {s t : String} (same : s.toUTF8.toList = t.toUTF8.toList) :
    s = t := by
  simp only [toList_eq_data] at same
  exact String.toByteArray_inj.mp (ByteArray.ext (Array.toList_inj.mp same))

/-- Different texts have different encodings. -/
theorem encode_injective (escapes : keeps 0x25 = false) {s t : String}
    (same : encode keeps s = encode keeps t) : s = t := by
  have chars : encodeChars keeps s = encodeChars keeps t := String.ofList_injective same
  have bytes := congrArg (fun cs => decodeBytes (cs.map code)) chars
  simp only [encodeChars, decodeBytes_flatMap_encodeByte escapes] at bytes
  exact toList_toUTF8_injective bytes

end Percent

end VmLaunch
