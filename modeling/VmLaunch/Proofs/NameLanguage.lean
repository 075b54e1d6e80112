import VmLaunch.Proofs.Names
import VmLaunch.Proofs.Text.Bytes
import VmLaunch.Proofs.Text.Pattern

/-!
# The language of instance names

The instance names are the words of one pattern: a letter, up to sixty-one name characters and
maybe one more that is no hyphen. So a hyphen at the end must find room before the last place. The
same names are found when the bytes of a text are tested in place of its characters, because no
byte of a character beyond ASCII is that of a name character.
-/

namespace VmLaunch

open Text.Pattern (oneOf atMost maybe mem_oneOf_iff mem_maybe_iff mem_atMost_oneOf_iff)

namespace InstanceName

/-- The lower-case letters. -/
def letters : List Char :=
  "abcdefghijklmnopqrstuvwxyz".toList

/-- The lower-case letters and the digits. -/
def visible : List Char :=
  letters ++ "0123456789".toList

/-- The pattern `[a-z][-a-z0-9]{0,61}[a-z0-9]?`. -/
def pattern : RegularExpression Char :=
  oneOf letters * atMost 61 (oneOf ('-' :: visible)) * maybe (oneOf visible)

/-- Whether a byte is that of a lower-case letter. -/
def isLetterByte (b : UInt8) : Bool :=
  0x61 ≤ b && b ≤ 0x7A

/-- Whether a byte is that of a name character. -/
def isNameByte (b : UInt8) : Bool :=
  isLetterByte b || (0x30 ≤ b && b ≤ 0x39) || b == 0x2D

/-- The test for an instance name on bytes. -/
def ofBytes (bytes : List UInt8) : Bool :=
  !(bytes.isEmpty || 63 < bytes.length) && bytes.head?.any isLetterByte &&
    !(bytes.length == 63 && bytes[62]? == some 0x2D) && bytes.all isNameByte

end InstanceName

open InstanceName

section Characters

variable {c : Char}

/-- Lower-case letters are ASCII. -/
theorem ascii_of_isLowerLetter (letter : isLowerLetter c = true) : c.toNat < 128 := by
  have bounds : 'a' ≤ c ∧ c ≤ 'z' := by simpa [isLowerLetter] using letter
  have below : c.val.toNat ≤ 'z'.val.toNat := UInt32.le_iff_toNat_le.mp (Char.le_def.mp bounds.2)
  exact Nat.lt_of_le_of_lt below (by decide)

/-- The characters of names are ASCII. -/
theorem ascii_of_isNameChar (named : isNameChar c = true) : c.toNat < 128 := by
  simp only [isNameChar, Bool.or_eq_true, Bool.and_eq_true, decide_eq_true_eq, beq_iff_eq] at named
  rcases named with (letter | ⟨-, digit⟩) | rfl
  · exact ascii_of_isLowerLetter letter
  · have below : c.val.toNat ≤ '9'.val.toNat := UInt32.le_iff_toNat_le.mp (Char.le_def.mp digit)
    exact Nat.lt_of_le_of_lt below (by decide)
  · decide

/-- The letters listed are the lower-case ones. -/
theorem mem_letters_iff : c ∈ letters ↔ isLowerLetter c = true := by
  have known : letters.all isLowerLetter = true := by decide
  refine ⟨List.all_eq_true.mp known c, fun letter => ?_⟩
  exact Percent.ascii_forall (p := fun c => isLowerLetter c = true → c ∈ letters) (by decide)
    (ascii_of_isLowerLetter letter) letter

/-- The visible characters are those of names but for the hyphen. -/
theorem mem_visible_iff : c ∈ visible ↔ isNameChar c = true ∧ c ≠ '-' := by
  have known : visible.all (fun c => decide (isNameChar c = true ∧ c ≠ '-')) = true := by decide
  refine ⟨fun member => of_decide_eq_true (List.all_eq_true.mp known c member), fun named => ?_⟩
  exact Percent.ascii_forall (p := fun c => isNameChar c = true ∧ c ≠ '-' → c ∈ visible)
    (by decide) (ascii_of_isNameChar named.1) named

/-- With the hyphen the visible characters are those of names. -/
theorem mem_hyphen_visible_iff : c ∈ '-' :: visible ↔ isNameChar c = true := by
  rw [List.mem_cons, mem_visible_iff]
  by_cases hyphen : c = '-'
  · subst hyphen
    exact iff_of_true (.inl rfl) (by decide)
  · simp [hyphen]

end Characters

section Language

/-- A word of the pattern ends with a name character other than a hyphen behind the others, or with
one of the others. -/
theorem mem_pattern_iff {word : List Char} :
    word ∈ pattern.matches' ↔ ∃ first middle last, word = first :: (middle ++ last) ∧
      isLowerLetter first = true ∧ middle.length ≤ 61 ∧ (∀ c ∈ middle, isNameChar c = true) ∧
        (last = [] ∨ ∃ c, last = [c] ∧ isNameChar c = true ∧ c ≠ '-') := by
  simp only [pattern, RegularExpression.matches'_mul, Language.mem_mul, mem_oneOf_iff,
    mem_atMost_oneOf_iff, mem_maybe_iff, mem_letters_iff, mem_visible_iff, mem_hyphen_visible_iff]
  constructor
  · rintro ⟨_, ⟨_, ⟨first, letter, rfl⟩, middle, ⟨short, chars⟩, rfl⟩, last, ends, rfl⟩
    refine ⟨first, middle, last, rfl, letter, short, chars, ends.imp_right ?_⟩
    rintro ⟨c, visible, rfl⟩
    exact ⟨c, rfl, visible⟩
  · rintro ⟨first, middle, last, rfl, letter, short, chars, ends⟩
    refine ⟨first :: middle, ⟨[first], ⟨first, letter, rfl⟩, middle, ⟨short, chars⟩, rfl⟩, last,
      ends.imp_right ?_, rfl⟩
    rintro ⟨c, rfl, visible⟩
    exact ⟨c, visible, rfl⟩

variable {name : String}

/-- What the pattern matches is a name. -/
theorem InstanceName.of_mem_pattern (matched : name.toList ∈ pattern.matches') :
    InstanceName name := by
  obtain ⟨first, middle, last, word, letter, short, chars, ends⟩ := mem_pattern_iff.mp matched
  have length : name.length = (first :: (middle ++ last)).length := by
    rw [← word, String.length_toList]
  have firstNamed : isNameChar first = true := by simp [isNameChar, letter]
  rcases ends with rfl | ⟨c, rfl, named, visible⟩
  · simp only [List.append_nil, List.length_cons] at word length
    constructor
    case chars => exact word ▸ List.forall_mem_cons.mpr ⟨firstNamed, chars⟩
    case head => exact word ▸ ⟨first, rfl, letter⟩
    case short => omega
    case last => omega
  · simp only [List.length_cons, List.length_append, List.length_nil] at length
    constructor
    case chars =>
      refine word ▸ List.forall_mem_cons.mpr ⟨firstNamed, List.forall_mem_append.mpr ⟨chars, ?_⟩⟩
      exact List.forall_mem_singleton.mpr named
    case head => exact word ▸ ⟨first, rfl, letter⟩
    case short => omega
    case last =>
      intro _ hyphen
      rw [word, ← List.cons_append, List.getLast?_append] at hyphen
      exact visible (Option.some.inj hyphen)

/-- The pattern matches every name. -/
theorem InstanceName.mem_pattern (named : InstanceName name) : name.toList ∈ pattern.matches' := by
  obtain ⟨chars, ⟨first, begins, letter⟩, short, last⟩ := named
  rw [← String.length_toList] at short last
  cases word : name.toList with
  | nil => simp [word] at begins
  | cons _ rest =>
    rw [word] at begins chars short last
    cases begins
    have others : ∀ c ∈ rest, isNameChar c = true := (List.forall_mem_cons.mp chars).2
    rw [mem_pattern_iff]
    -- Only a name of full length needs the last place, and there no hyphen may stand.
    by_cases room : rest.length ≤ 61
    · exact ⟨first, rest, [], by simp, letter, room, others, .inl rfl⟩
    · rw [List.length_cons] at short last
      obtain ⟨middle, final, rfl⟩ : ∃ middle final, rest = middle ++ [final] :=
        ⟨_, _, (List.dropLast_append_getLast (by rintro rfl; simp at room)).symm⟩
      obtain ⟨before, after⟩ := List.forall_mem_append.mp others
      rw [List.length_append, List.length_singleton] at short last room
      have full := last (by omega)
      rw [← List.cons_append, List.getLast?_append] at full
      exact ⟨first, middle, [final], rfl, letter, by omega, before,
        .inr ⟨final, rfl, after final (by simp), fun hyphen => full (by rw [hyphen]; rfl)⟩⟩

end Language

section Bytes

variable {c : Char}

/-- Whether an ASCII character is a lower-case letter is told by its byte. -/
theorem isLetterByte_code (ascii : c.toNat < 128) :
    isLetterByte (Percent.code c) = isLowerLetter c :=
  Percent.ascii_forall (p := fun c => isLetterByte (Percent.code c) = isLowerLetter c) (by decide)
    ascii

/-- Whether an ASCII character may stand in a name is told by its byte. -/
theorem isNameByte_code (ascii : c.toNat < 128) : isNameByte (Percent.code c) = isNameChar c :=
  Percent.ascii_forall (p := fun c => isNameByte (Percent.code c) = isNameChar c) (by decide) ascii

/-- The byte of the hyphen is that of no other ASCII character. -/
theorem code_eq_hyphen_iff (ascii : c.toNat < 128) : Percent.code c = 0x2D ↔ c = '-' :=
  Percent.ascii_forall (p := fun c => Percent.code c = 0x2D ↔ c = '-') (by decide) ascii

/-- The bytes of names are ASCII. -/
theorem ascii_of_isNameByte {b : UInt8} (named : isNameByte b = true) : b.toNat < 128 := by
  simp only [isNameByte, isLetterByte, Bool.or_eq_true, Bool.and_eq_true, decide_eq_true_eq,
    beq_iff_eq, UInt8.le_iff_toNat_le] at named
  rcases named with (⟨-, letter⟩ | ⟨-, digit⟩) | rfl
  · exact Nat.lt_of_le_of_lt letter (by decide)
  · exact Nat.lt_of_le_of_lt digit (by decide)
  · decide

/-- Bytes are taken for a name by each byte, the first one, their number and the last one. A hyphen
at the end counts only where the length is the greatest. -/
theorem ofBytes_iff {bytes : List UInt8} :
    ofBytes bytes = true ↔ (∀ b ∈ bytes, isNameByte b = true) ∧
      (∃ b ∈ bytes.head?, isLetterByte b = true) ∧ bytes.length ≤ 63 ∧
        (bytes.length = 63 → bytes.getLast? ≠ some 0x2D) := by
  have last : bytes.length = 63 → bytes.getLast? = bytes[62]? := by
    intro full
    rw [List.getLast?_eq_getElem?, full]
  cases bytes with
  | nil => simp [ofBytes]
  | cons first rest =>
    simp only [ofBytes, Bool.and_eq_true, Bool.not_eq_true', Bool.or_eq_false_iff, List.isEmpty_cons,
      decide_eq_false_iff_not, Nat.not_lt, List.head?_cons, Option.any_some, Option.mem_some,
      exists_eq_left', Bool.and_eq_false_imp, beq_iff_eq, beq_eq_false_iff_ne, List.all_eq_true,
      true_and]
    constructor
    · rintro ⟨⟨⟨short, letter⟩, visible⟩, named⟩
      exact ⟨named, letter, short, fun full => last full ▸ visible full⟩
    · rintro ⟨named, letter, short, visible⟩
      exact ⟨⟨⟨short, letter⟩, fun full => last full ▸ visible full⟩, named⟩

/-- The bytes of an ASCII text are tested as its characters are. -/
theorem ofBytes_of_ascii {name : String} (ascii : ∀ c ∈ name.toList, c.toNat < 128) :
    ofBytes (Text.bytes name) = true ↔ InstanceName name := by
  have chars : (∀ b ∈ name.toList.map Percent.code, isNameByte b = true) ↔
      ∀ c ∈ name.toList, isNameChar c = true := by
    rw [List.forall_mem_map]
    exact forall₂_congr fun c member => by rw [isNameByte_code (ascii c member)]
  have head : (∃ b ∈ (name.toList.map Percent.code).head?, isLetterByte b = true) ↔
      ∃ c ∈ name.toList.head?, isLowerLetter c = true := by
    rw [List.head?_map]
    cases first : name.toList.head? with
    | none => simp
    | some c =>
      have letter := isLetterByte_code (ascii c (List.mem_of_head? first))
      simp [letter]
  have last : (name.toList.map Percent.code).getLast? = some 0x2D ↔
      name.toList.getLast? = some '-' := by
    rw [List.getLast?_map]
    cases final : name.toList.getLast? with
    | none => simp
    | some c =>
      have hyphen := code_eq_hyphen_iff (ascii c (List.mem_of_getLast? final))
      simp [hyphen]
  rw [Text.bytes_of_ascii ascii, ofBytes_iff, chars, head, List.length_map, String.length_toList,
    ne_eq, last]
  exact ⟨fun ⟨chars, head, short, last⟩ => ⟨chars, head, short, last⟩,
    fun named => ⟨named.chars, named.head, named.short, named.last⟩⟩

/-- An instance name is told by its bytes. -/
theorem ofBytes_eq_isInstanceName (name : String) :
    ofBytes (Text.bytes name) = isInstanceName name := by
  rw [Bool.eq_iff_iff, isInstanceName_iff]
  constructor
  · intro passes
    have named := (ofBytes_iff.mp passes).1
    have ascii : ∀ c ∈ name.toList, c.toNat < 128 := fun c =>
      Text.ascii_of_bytes fun b member => ascii_of_isNameByte (named b member)
    exact (ofBytes_of_ascii ascii).mp passes
  · intro named
    exact (ofBytes_of_ascii fun c member => ascii_of_isNameChar (named.chars c member)).mpr named

end Bytes

/-- The instance names are the texts that the pattern matches as a whole, and it makes no
difference whether the characters or the bytes of a text are tested. -/
theorem isInstanceName_iff_matches (name : String) :
    (isInstanceName name = true ↔ name.toList ∈ pattern.matches') ∧
      ofBytes (Text.bytes name) = isInstanceName name := by
  refine ⟨?_, ofBytes_eq_isInstanceName name⟩
  rw [isInstanceName_iff]
  exact ⟨InstanceName.mem_pattern, InstanceName.of_mem_pattern⟩

/-- A name may end with hyphens as long as its last place stays free. -/
example : isInstanceName (String.ofList ('a' :: List.replicate 61 '-')) = true ∧
    isInstanceName (String.ofList ('a' :: List.replicate 62 '-')) = false := by
  decide

end VmLaunch
