import Mathlib.Tactic.SplitIfs
import VmLaunch.Proofs.Decimal.Digits
import VmLaunch.Proofs.Json.Layout

/-!
# Reading what was written

The text of a plain value reads back as the value, on one line as well as over several. Strings
come first, character by character, then numbers, and from these whole values by induction on what
makes them plain.
-/

namespace VmLaunch.Written

section Strings

variable (taken rest : List Char)

/-- An escape of two characters stands for the one that it names. -/
theorem scanString_escaped {c mark : Char} (stands : escaped? mark = some c)
    (notCode : mark ≠ 'u') :
    scanString taken none true ('\\' :: mark :: rest) = scanString (c :: taken) none true rest := by
  rw [scanString]
  · simp [stands]
  · intro _ _ _ _ _ same
    exact absurd same notCode

/-- A character that needs no escape stands for itself. -/
theorem scanString_plain {c : Char} (visible : ¬ c.toNat < 32) (notQuote : c ≠ '"')
    (notBackslash : c ≠ '\\') :
    scanString taken none true (c :: rest) = scanString (c :: taken) none true rest := by
  rw [scanString]
  · simp [visible, notBackslash]
  · simpa using notQuote
  · simp [notBackslash]
  · simp [notBackslash]

/-- A control character is read from the two digits of its code. -/
theorem scanString_code {c : Char} (control : c.toNat < 32) :
    scanString taken none true
        ('\\' :: 'u' :: '0' :: '0' :: Json.hexDigit (c.toNat / 16) :: Json.hexDigit c.toNat ::
          rest) =
      scanString (c :: taken) none true rest := by
  have codes : ∀ n < 32, hex4? '0' '0' (Json.hexDigit (n / 16)) (Json.hexDigit n) = some n := by
    decide
  have notHigh : isHighSurrogate c.toNat = false := by
    simp [isHighSurrogate]
    omega
  have notLow : isLowSurrogate c.toNat = false := by
    simp [isLowSurrogate]
    omega
  rw [scanString, codes _ control]
  simp [notHigh, notLow]

/-- A character of a string is read back from its written form. -/
theorem scanString_escapeChar (c : Char) :
    scanString taken none true (Json.escapeChar c ++ rest) =
      scanString (c :: taken) none true rest := by
  have ofCode : ∀ code, c.toNat = code → Char.ofNat code = c := fun code same => by
    rw [← same, Char.ofNat_toNat]
  unfold Json.escapeChar
  split_ifs with quote backslash newline carriage tab backspace formFeed control
  · exact scanString_escaped taken rest (by rw [eq_of_beq quote]; rfl) (by decide)
  · exact scanString_escaped taken rest (by rw [eq_of_beq backslash]; rfl) (by decide)
  · exact scanString_escaped taken rest (by rw [eq_of_beq newline]; rfl) (by decide)
  · exact scanString_escaped taken rest (by rw [eq_of_beq carriage]; rfl) (by decide)
  · exact scanString_escaped taken rest (by rw [eq_of_beq tab]; rfl) (by decide)
  · exact scanString_escaped taken rest (by rw [← ofCode 8 (eq_of_beq backspace)]; rfl) (by decide)
  · exact scanString_escaped taken rest (by rw [← ofCode 12 (eq_of_beq formFeed)]; rfl) (by decide)
  · exact scanString_code taken rest control
  · exact scanString_plain taken rest control (by simpa using quote) (by simpa using backslash)

/-- A string is read back from the characters between its quotes. -/
theorem scanString_flatMap (chars : List Char) :
    scanString taken none true (chars.flatMap Json.escapeChar ++ '"' :: rest) =
      some (some (String.ofList (taken.reverse ++ chars)), rest) := by
  induction chars generalizing taken with
  | nil => simp [scanString]
  | cons c chars ih =>
    rw [List.flatMap_cons, List.append_assoc, scanString_escapeChar, ih, List.reverse_cons,
      List.append_assoc, List.singleton_append]

/-- A string is read back behind its first quote. -/
theorem scanString_tail_quoted (text : String) :
    scanString [] none true (text.toList.flatMap Json.escapeChar ++ '"' :: rest) =
      some (some text, rest) := by
  rw [scanString_flatMap, List.reverse_nil, List.nil_append, String.ofList_toList]

end Strings

section Blanks

variable {blank : List Char} (spaces : ∀ c ∈ blank, isSpace c = true)

/-- Nothing is skipped before a visible character. -/
theorem skipSpace_cons {c : Char} (visible : isSpace c = false) (cs : List Char) :
    skipSpace (c :: cs) = c :: cs := by
  simp [skipSpace, visible]

/-- Space that was skipped is gone. -/
@[simp]
theorem skipSpace_skipSpace (cs : List Char) : skipSpace (skipSpace cs) = skipSpace cs := by
  induction cs with
  | nil => rfl
  | cons c cs ih =>
    cases space : isSpace c with
    | true => simpa [skipSpace, space] using ih
    | false => rw [skipSpace_cons space, skipSpace_cons space]

/-- A value is read behind space as without it. -/
theorem scanValue_skipSpace (level fuel : Nat) (cs : List Char) :
    scanValue level fuel (skipSpace cs) = scanValue level fuel cs := by
  cases fuel with
  | zero => rfl
  | succ fuel => rw [scanValue, scanValue, skipSpace_skipSpace]

/-- Items are read behind space as without it. -/
theorem scanItems_skipSpace (level fuel : Nat) (cs : List Char) :
    scanItems level fuel (skipSpace cs) = scanItems level fuel cs := by
  cases fuel with
  | zero => rfl
  | succ fuel => rw [scanItems, scanItems, scanValue_skipSpace]

/-- Members are read behind space as without it. -/
theorem scanMembers_skipSpace (level fuel : Nat) (cs : List Char) :
    scanMembers level fuel (skipSpace cs) = scanMembers level fuel cs := by
  cases fuel with
  | zero => rfl
  | succ fuel => rw [scanMembers, scanMembers, skipSpace_skipSpace]

include spaces

/-- Blank characters are skipped whole. -/
theorem skipSpace_append (cs : List Char) : skipSpace (blank ++ cs) = skipSpace cs :=
  List.dropWhile_append_of_pos spaces

/-- A value is read behind blank characters as without them. -/
theorem scanValue_append (level fuel : Nat) (cs : List Char) :
    scanValue level fuel (blank ++ cs) = scanValue level fuel cs := by
  rw [← scanValue_skipSpace, skipSpace_append spaces, scanValue_skipSpace]

/-- Items are read behind blank characters as without them. -/
theorem scanItems_append (level fuel : Nat) (cs : List Char) :
    scanItems level fuel (blank ++ cs) = scanItems level fuel cs := by
  rw [← scanItems_skipSpace, skipSpace_append spaces, scanItems_skipSpace]

/-- Members are read behind blank characters as without them. -/
theorem scanMembers_append (level fuel : Nat) (cs : List Char) :
    scanMembers level fuel (blank ++ cs) = scanMembers level fuel cs := by
  rw [← scanMembers_skipSpace, skipSpace_append spaces, scanMembers_skipSpace]

end Blanks

/-- The characters do not go on with the text of a number. -/
def Ended (rest : List Char) : Prop :=
  ∀ c ∈ rest.head?, Binary64.isDigit c = false ∧ c ≠ '.' ∧ c ≠ 'e' ∧ c ≠ 'E'

instance (rest : List Char) : Decidable (Ended rest) :=
  inferInstanceAs (Decidable (∀ c ∈ rest.head?, _))

/-- Blanks do not go on with the text of a number. -/
theorem ended_append {blank : List Char} (spaces : ∀ c ∈ blank, isSpace c = true) {c : Char}
    (stops : Ended [c]) (rest : List Char) : Ended (blank ++ c :: rest) := by
  cases blank with
  | nil => exact stops
  | cons space blank =>
    rintro _ ⟨⟩
    have kinds : ((space = ' ' ∨ space = '\n') ∨ space = '\t') ∨ space = '\r' := by
      simpa [isSpace] using spaces space List.mem_cons_self
    rcases kinds with ((rfl | rfl) | rfl) | rfl <;> decide

/-- No number goes on behind a comma. -/
theorem ended_comma (rest : List Char) : Ended (',' :: rest) := by
  rintro _ ⟨⟩
  decide

section Numbers

/-- The digits of a number that fits are that number. -/
theorem wholeNumber_nat {n : Nat} (fits : n < 0x10000000000000000) :
    wholeNumber false (Nat.toDigits 10 n) = .num (.int n) := by
  simp [wholeNumber, Binary64.digitsValue_toDigits, fits]

/-- The digits behind a minus sign are the negative number, when that fits. -/
theorem wholeNumber_negative {n : Nat} (positive : 0 < n) (fits : n ≤ 0x8000000000000000) :
    wholeNumber true (Nat.toDigits 10 n) = .num (.int (-n)) := by
  simp [wholeNumber, Binary64.digitsValue_toDigits, positive, fits]

variable {n : Nat} {rest : List Char} (ended : Ended rest)

include ended

/-- The digits of a number end where the number does. -/
theorem span_digits :
    (Nat.toDigits 10 n ++ rest).takeWhile Binary64.isDigit = Nat.toDigits 10 n ∧
      (Nat.toDigits 10 n ++ rest).dropWhile Binary64.isDigit = rest := by
  have digits : ∀ c ∈ Nat.toDigits 10 n, Binary64.isDigit c = true := fun _ =>
    Binary64.isDigit_of_mem_toDigits
  rw [List.takeWhile_append_of_pos digits, List.dropWhile_append_of_pos digits]
  cases rest with
  | nil => simp
  | cons c rest =>
    have stops := (ended c rfl).1
    simp [stops]

/-- Where a number has ended there is no exponent. -/
theorem scanExponent_of_ended : scanExponent rest = some (none, rest) := by
  cases rest with
  | nil => rfl
  | cons c rest =>
    obtain ⟨-, -, small, large⟩ := ended c rfl
    simp [scanExponent, small, large]

/-- A number is read as far as its digits go. -/
theorem scanNumber_digits (negative : Bool) :
    scanNumber negative (Nat.toDigits 10 n ++ rest) =
      some (wholeNumber negative (Nat.toDigits 10 n), rest) := by
  obtain ⟨digits, tail⟩ := span_digits (n := n) ended
  have proper : ((Nat.toDigits 10 n).isEmpty ||
      ((Nat.toDigits 10 n).head? == some '0' && 1 < (Nat.toDigits 10 n).length)) = false := by
    rcases Nat.eq_zero_or_pos n with rfl | positive
    · rfl
    · have filled : (Nat.toDigits 10 n).isEmpty = false := by simp [Nat.toDigits_ne_nil]
      have first : ((Nat.toDigits 10 n).head? == some '0') = false :=
        beq_false_of_ne (Binary64.head?_toDigits_ne positive)
      rw [filled, first]
      rfl
  have noPoint : ∀ fraction, rest ≠ '.' :: fraction := by
    rintro fraction rfl
    exact (ended '.' rfl).2.1 rfl
  unfold scanNumber
  simp only [digits, tail, proper]
  split
  · contradiction
  · simp [scanExponent_of_ended ended]

end Numbers

section Heads

variable (level fuel : Nat) {rest : List Char}

/-- The leaf for null is read back. -/
theorem scanValue_null :
    scanValue level (fuel + 1) ((Json.leafText .null).toList ++ rest) = some (.null, rest) := by
  simp [scanValue, skipSpace, isSpace, Json.leafText]

/-- The leaf for a flag is read back. -/
theorem scanValue_bool (flag : Bool) :
    scanValue level (fuel + 1) ((Json.leafText (.bool flag)).toList ++ rest) =
      some (.bool flag, rest) := by
  cases flag <;> simp [scanValue, skipSpace, isSpace, Json.leafText]

/-- The leaf for a text is read back, whatever characters are in it. -/
theorem scanValue_str (text : String) :
    scanValue level (fuel + 1) ((Json.leafText (.str text)).toList ++ rest) =
      some (.str text, rest) := by
  have closed := scanString_tail_quoted rest text
  simp [scanValue, Json.leafText, Json.quote, skipSpace_cons, isSpace, closed]

/-- A number that fits is read back from its digits. -/
theorem scanValue_nat {n : Nat} (fits : n < 0x10000000000000000) (ended : Ended rest) :
    scanValue level (fuel + 1) (Nat.toDigits 10 n ++ rest) = some (.num (.int n), rest) := by
  obtain ⟨first, others, digits, ne⟩ := Binary64.exists_toDigits_eq_cons n
  -- Every other kind of value begins with a character that is no digit.
  have visible : isSpace first = false := by
    simp [isSpace, ne ' ' rfl, ne '\n' rfl, ne '\t' rfl, ne '\r' rfl]
  have notBrace : (first.toNat == 0x7B) = false :=
    beq_false_of_ne fun same => ne '\x7b' rfl (Char.toNat_inj.1 same)
  have whole := scanNumber_digits (n := n) ended false
  rw [wholeNumber_nat fits, digits, List.cons_append] at whole
  rw [digits, List.cons_append, scanValue, skipSpace_cons visible]
  simp [ne 'n' rfl, ne 't' rfl, ne 'f' rfl, ne '-' rfl, ne '"' rfl, ne '[' rfl, notBrace, whole]

/-- A negative number that fits is read back from its digits. -/
theorem scanValue_negative {n : Nat} (positive : 0 < n) (fits : n ≤ 0x8000000000000000)
    (ended : Ended rest) :
    scanValue level (fuel + 1) ('-' :: Nat.toDigits 10 n ++ rest) =
      some (.num (.int (-n)), rest) := by
  have whole := scanNumber_digits (n := n) ended true
  rw [wholeNumber_negative positive fits] at whole
  simp [scanValue, skipSpace_cons, isSpace, whole]

/-- An integer is written in digits, with a sign in front when it is negative. -/
theorem toList_leafText_int (n : Int) :
    (Json.leafText (.int n)).toList =
      if n < 0 then '-' :: Nat.toDigits 10 n.natAbs else Nat.toDigits 10 n.natAbs := by
  cases n with
  | ofNat n =>
    have digits : (Json.leafText (.int n)).toList = Nat.toDigits 10 n :=
      Binary64.toList_toString n
    rwa [Int.ofNat_eq_natCast, if_neg (by omega), Int.natAbs_natCast]
  | negSucc n =>
    have text : toString (Int.negSucc n) = "-" ++ (n + 1).repr := rfl
    simp [Json.int, Json.leafText, Json.numberText, text, Nat.toList_repr]

/-- The leaf for an integer in range is read back. -/
theorem scanValue_int {n : Int} (low : -0x8000000000000000 ≤ n) (high : n < 0x10000000000000000)
    (ended : Ended rest) :
    scanValue level (fuel + 1) ((Json.leafText (.int n)).toList ++ rest) =
      some (.num (.int n), rest) := by
  rw [toList_leafText_int]
  by_cases sign : n < 0
  · have read := scanValue_negative level fuel (n := n.natAbs) (by omega) (by omega) ended
    have same : -(n.natAbs : Int) = n := by omega
    rwa [if_pos sign, ← same, Int.natAbs_neg, Int.natAbs_natCast]
  · have read := scanValue_nat level fuel (n := n.natAbs) (by omega) ended
    have same : (n.natAbs : Int) = n := by omega
    rwa [if_neg sign, ← same, Int.natAbs_natCast]

/-- Behind an opening bracket items are read, unless the bracket closes at once. -/
theorem scanValue_arr {body : List Char} (filled : ∀ tail, skipSpace body ≠ ']' :: tail) :
    scanValue level (fuel + 1) ('[' :: body) =
      (scanItems (level + 1) fuel body).map fun (items, tail) =>
        (atLevel (level + 1) (.arr items), tail) := by
  rw [scanValue]
  simp [skipSpace_cons, isSpace]
  rw [scanItems_skipSpace]

/-- Behind an opening brace members are read, unless the brace closes at once. -/
theorem scanValue_obj {c : Char} {body tail : List Char} (filled : skipSpace body = c :: tail)
    (notClosing : c ≠ '\x7d') :
    scanValue level (fuel + 1) ('\x7b' :: body) =
      (scanMembers (level + 1) fuel body).map fun (members, tail) =>
        (atLevel (level + 1) (ofMembers members), tail) := by
  have further : (c.toNat == 0x7D) = false :=
    beq_false_of_ne fun same => notClosing (Char.toNat_inj.1 same)
  rw [scanValue]
  simp [skipSpace_cons, isSpace, filled, further]
  rw [← filled, scanMembers_skipSpace]

end Heads

section Lists

variable {level fuel : Nat} (key : String) {value : Written} {cs after tail : List Char}

/-- A closing bracket behind a value ends the items. -/
theorem scanItems_last (read : scanValue level fuel cs = some (value, after))
    (ends : skipSpace after = ']' :: tail) :
    scanItems level (fuel + 1) cs = some ([value], tail) := by
  simp [scanItems, read, ends]

/-- A comma behind a value is followed by more items. -/
theorem scanItems_next (read : scanValue level fuel cs = some (value, after))
    (goesOn : skipSpace after = ',' :: tail) :
    scanItems level (fuel + 1) cs =
      (scanItems level fuel tail).map fun (items, tail) => (value :: items, tail) := by
  simp [scanItems, read, goesOn]

/-- A closing brace behind a value ends the members. -/
theorem scanMembers_last (read : scanValue level fuel cs = some (value, after))
    (ends : skipSpace after = '\x7d' :: tail) :
    scanMembers level (fuel + 1) (Json.Layout.quoted key ++ ':' :: cs) =
      some ([(some key, value)], tail) := by
  have closed := scanString_tail_quoted (':' :: cs) key
  simp [scanMembers, Json.Layout.quoted, skipSpace_cons, isSpace, closed, read, ends]

/-- A comma behind a value is followed by more members. -/
theorem scanMembers_next (read : scanValue level fuel cs = some (value, after))
    (goesOn : skipSpace after = ',' :: tail) :
    scanMembers level (fuel + 1) (Json.Layout.quoted key ++ ':' :: cs) =
      (scanMembers level fuel tail).map fun (members, tail) =>
        ((some key, value) :: members, tail) := by
  have closed := scanString_tail_quoted (':' :: cs) key
  simp [scanMembers, Json.Layout.quoted, skipSpace_cons, isSpace, closed, read, goesOn]

end Lists

mutual

/-- The tree of a value. -/
def ofJson : Json → Written
  | .null => .null
  | .bool flag => .bool flag
  | .num number => .num number
  | .str text => .str text
  | .arr items => .arr (ofItems items)
  | .obj members => .obj (ofEntries members)

/-- The trees of the items. -/
def ofItems : List Json → List Written
  | [] => []
  | value :: rest => ofJson value :: ofItems rest

/-- The members with the trees of their values. -/
def ofEntries : List (String × Json) → List (String × Written)
  | [] => []
  | (key, value) :: rest => (key, ofJson value) :: ofEntries rest

end

/-- Items are written one by one. -/
theorem ofItems_eq_map (items : List Json) : ofItems items = items.map ofJson := by
  induction items with
  | nil => rfl
  | cons first rest ih => rw [ofItems, ih, List.map_cons]

/-- The values of members are written one by one. -/
theorem ofEntries_eq_map (members : List (String × Json)) :
    ofEntries members = members.map (Prod.map id ofJson) := by
  induction members with
  | nil => rfl
  | cons first rest ih => rw [ofEntries, ih, List.map_cons, Prod.map, id]

/-- Members whose keys are all texts keep these keys. -/
theorem mapM_members {join : Option String × Written → Option (String × Written)}
    (joins : ∀ key value, join (some key, value) = some (key, value))
    (members : List (String × Json)) :
    (members.map (Prod.map some ofJson)).mapM join = some (ofEntries members) := by
  induction members with
  | nil => rfl
  | cons first rest ih =>
    obtain ⟨key, value⟩ := first
    simp [List.mapM_cons, joins, ih, ofEntries]

/-- Members whose keys all have a value make an object. -/
theorem ofMembers_map_some (members : List (String × Json)) :
    ofMembers (members.map (Prod.map some ofJson)) = .obj (ofEntries members) := by
  rw [ofMembers, mapM_members fun _ _ => rfl]

/-- A value is read back from its text, whatever comes behind it. Two steps for each character are
enough: one is for a value and one for the list that it stands in. -/
def Reads (layout : Json.Layout) (level : Nat) (value : Json) : Prop :=
  ∀ indent fuel rest, Ended rest → 2 * (layout.chars indent value).length ≤ fuel →
    scanValue level fuel (layout.chars indent value ++ rest) = some (ofJson value, rest)

section Layouts

variable (layout : Json.Layout) (indent outer : Nat) {level fuel : Nat} {rest : List Char}

/-- What is laid out begins with a character that is neither blank nor closing. -/
theorem chars_eq_cons {depth : Nat} {value : Json} (plain : value.Plain depth) :
    ∃ c cs, layout.chars indent value = c :: cs ∧ isSpace c = false ∧ c ≠ ']' := by
  cases plain with
  | null => exact ⟨'n', _, rfl, rfl, by decide⟩
  | bool flag =>
    cases flag with
    | true => exact ⟨'t', _, rfl, rfl, by decide⟩
    | false => exact ⟨'f', _, rfl, rfl, by decide⟩
  | str text => exact ⟨'"', _, String.toList_ofList, rfl, by decide⟩
  | @int _ n low high =>
    have text : layout.chars indent (.int n) = (Json.leafText (.int n)).toList := rfl
    rw [text, toList_leafText_int]
    split
    · exact ⟨'-', _, rfl, rfl, by decide⟩
    · obtain ⟨first, others, digits, ne⟩ := Binary64.exists_toDigits_eq_cons n.natAbs
      have visible : isSpace first = false := by
        simp [isSpace, ne ' ' rfl, ne '\n' rfl, ne '\t' rfl, ne '\r' rfl]
      exact ⟨first, others, digits, visible, ne ']' rfl⟩
  | @arr _ items each =>
    cases items with
    | nil => exact ⟨'[', _, by rw [Json.Layout.chars], rfl, by decide⟩
    | cons first rest => exact ⟨'[', _, layout.chars_arr indent (by simp), rfl, by decide⟩
  | @obj _ members each =>
    cases members with
    | nil => exact ⟨'\x7b', _, by rw [Json.Layout.chars], rfl, by decide⟩
    | cons first rest => exact ⟨'\x7b', _, layout.chars_obj indent (by simp), rfl, by decide⟩

/-- Items that are laid out do not begin with a closing bracket. -/
theorem skipSpace_items {depth : Nat} {first : Json} (plain : first.Plain depth)
    (others : List Json) (rest tail : List Char) :
    skipSpace (layout.items indent (first :: others) ++ rest) ≠ ']' :: tail := by
  obtain ⟨c, cs, starts, visible, notClosing⟩ := chars_eq_cons layout indent plain
  obtain ⟨more, splits⟩ :
      ∃ more, layout.items indent (first :: others) = layout.line indent ++ c :: more := by
    cases others with
    | nil => exact ⟨cs, by rw [layout.items_singleton, starts]⟩
    | cons second others =>
      exact ⟨_, by rw [layout.items_cons indent (List.cons_ne_nil _ _), starts, List.cons_append]⟩
  rw [splits, List.append_assoc, skipSpace_append (layout.line_blank indent), List.cons_append,
    skipSpace_cons visible]
  intro same
  exact notClosing (List.cons.inj same).1

/-- Members that are laid out begin with the quote of a key. -/
theorem skipSpace_members (first : String × Json) (others : List (String × Json))
    (rest : List Char) :
    ∃ tail, skipSpace (layout.members indent (first :: others) ++ rest) = '"' :: tail := by
  obtain ⟨key, value⟩ := first
  obtain ⟨more, splits⟩ : ∃ more, layout.members indent ((key, value) :: others) =
      layout.line indent ++ '"' :: more := by
    cases others with
    | nil => exact ⟨_, layout.members_singleton indent key value⟩
    | cons second others => exact ⟨_, layout.members_cons indent (List.cons_ne_nil _ _) key value⟩
  rw [splits, List.append_assoc, skipSpace_append (layout.line_blank indent), List.cons_append]
  exact ⟨_, skipSpace_cons rfl _⟩

/-- Items that are laid out are read back, when each of them is. -/
theorem scanItems_items {items : List Json} (filled : items ≠ [])
    (each : ∀ item ∈ items, Reads layout level item)
    (enough : 2 * (layout.items indent items).length + 1 ≤ fuel) :
    scanItems level fuel (layout.items indent items ++ (layout.line outer ++ ']' :: rest)) =
      some (ofItems items, rest) := by
  induction items generalizing fuel with
  | nil => contradiction
  | cons first others ih =>
    obtain ⟨fuel, rfl⟩ : ∃ less, fuel = less + 1 := ⟨fuel - 1, by omega⟩
    have here := each first List.mem_cons_self indent fuel
    cases others with
    | nil =>
      rw [layout.items_singleton] at enough ⊢
      rw [List.length_append] at enough
      have ended : Ended (layout.line outer ++ ']' :: rest) :=
        ended_append (layout.line_blank outer) (by rintro _ ⟨⟩; decide) rest
      have read := here _ ended (by omega)
      rw [List.append_assoc, scanItems_append (layout.line_blank indent)]
      exact scanItems_last read (skipSpace_append (layout.line_blank outer) _)
    | cons second others =>
      have more := @ih fuel (List.cons_ne_nil _ _) fun item member => each item (.tail first member)
      rw [layout.items_cons indent (List.cons_ne_nil _ _)] at enough ⊢
      rw [List.length_append, List.length_append, List.length_cons] at enough
      have read := fun tail => here (',' :: tail) (ended_comma tail) (by omega)
      rw [List.append_assoc, List.append_assoc, scanItems_append (layout.line_blank indent),
        List.cons_append, scanItems_next (read _) rfl, more (by omega)]
      rfl

/-- Members that are laid out are read back, when the value of each of them is. -/
theorem scanMembers_members {members : List (String × Json)} (filled : members ≠ [])
    (each : ∀ member ∈ members, Reads layout level member.2)
    (enough : 2 * (layout.members indent members).length + 1 ≤ fuel) :
    scanMembers level fuel
        (layout.members indent members ++ (layout.line outer ++ '\x7d' :: rest)) =
      some (members.map (Prod.map some ofJson), rest) := by
  induction members generalizing fuel with
  | nil => contradiction
  | cons first others ih =>
    obtain ⟨key, value⟩ := first
    obtain ⟨fuel, rfl⟩ : ∃ less, fuel = less + 1 := ⟨fuel - 1, by omega⟩
    have here : Reads layout level value := each _ List.mem_cons_self
    cases others with
    | nil =>
      rw [layout.members_singleton] at enough ⊢
      simp only [List.length_append, List.length_cons] at enough
      have ended : Ended (layout.line outer ++ '\x7d' :: rest) :=
        ended_append (layout.line_blank outer) (by rintro _ ⟨⟩; decide) rest
      have read := here indent fuel _ ended (by omega)
      rw [← scanValue_append layout.gap_blank] at read
      have last := scanMembers_last key read (skipSpace_append (layout.line_blank outer) _)
      simpa [scanMembers_append (layout.line_blank indent)] using last
    | cons second others =>
      have more := @ih fuel (List.cons_ne_nil _ _) fun item member => each item (.tail _ member)
      rw [layout.members_cons indent (List.cons_ne_nil _ _)] at enough ⊢
      simp only [List.length_append, List.length_cons] at enough
      have read := here indent fuel
        (',' :: (layout.members indent (second :: others) ++ (layout.line outer ++ '\x7d' :: rest)))
        (ended_comma _) (by omega)
      rw [← scanValue_append layout.gap_blank] at read
      have next := scanMembers_next key read rfl
      rw [more (by omega)] at next
      simpa [scanMembers_append (layout.line_blank indent)] using next

end Layouts

/-- A value has at least one character, so there is fuel for it. -/
theorem reads_of_succ {layout : Json.Layout} {level depth : Nat} {value : Json}
    (plain : value.Plain depth)
    (read : ∀ indent fuel rest, Ended rest → 2 * (layout.chars indent value).length ≤ fuel + 1 →
      scanValue level (fuel + 1) (layout.chars indent value ++ rest) = some (ofJson value, rest)) :
    Reads layout level value := by
  intro indent fuel rest ended enough
  obtain ⟨first, others, starts, -⟩ := chars_eq_cons layout indent plain
  cases fuel with
  | zero => simp [starts] at enough
  | succ fuel => exact read indent fuel rest ended enough

section Nested

variable {layout : Json.Layout} {level depth : Nat} (shallow : level + 1 ≤ deepest)

include shallow

/-- An array is read back when its items are. -/
theorem reads_arr {items : List Json} (plain : ∀ item ∈ items, item.Plain depth)
    (each : ∀ item ∈ items, Reads layout (level + 1) item) : Reads layout level (.arr items) := by
  apply reads_of_succ (.arr plain)
  intro indent fuel rest _ enough
  have inside : atLevel (level + 1) (.arr (ofItems items)) = ofJson (.arr items) := if_pos shallow
  cases items with
  | nil =>
    rw [← inside]
    simp [Json.Layout.chars, scanValue, skipSpace_cons, isSpace, ofItems]
  | cons first others =>
    have filled : first :: others ≠ [] := List.cons_ne_nil first others
    rw [layout.chars_arr indent filled] at enough ⊢
    simp only [List.length_append, List.length_cons] at enough
    have read := @scanItems_items layout (indent + 1) indent (level + 1) fuel rest _ filled each
      (by omega)
    have opens := skipSpace_items layout (indent + 1) (plain first List.mem_cons_self) others
    rw [List.cons_append, List.append_assoc, scanValue_arr level fuel (opens _), ← inside]
    simp [read]

/-- An object is read back when the values of its members are. -/
theorem reads_obj {members : List (String × Json)}
    (plain : ∀ member ∈ members, member.2.Plain depth)
    (each : ∀ member ∈ members, Reads layout (level + 1) member.2) :
    Reads layout level (.obj members) := by
  apply reads_of_succ (.obj plain)
  intro indent fuel rest _ enough
  have inside : atLevel (level + 1) (.obj (ofEntries members)) = ofJson (.obj members) :=
    if_pos shallow
  cases members with
  | nil =>
    rw [← inside]
    simp [Json.Layout.chars, scanValue, skipSpace_cons, isSpace, ofEntries]
  | cons first others =>
    have filled : first :: others ≠ [] := List.cons_ne_nil first others
    rw [layout.chars_obj indent filled] at enough ⊢
    simp only [List.length_append, List.length_cons] at enough
    have read := @scanMembers_members layout (indent + 1) indent (level + 1) fuel rest _ filled each
      (by omega)
    obtain ⟨tail, opens⟩ := skipSpace_members layout (indent + 1) first others
      (layout.line indent ++ ['\x7d'] ++ rest)
    rw [List.cons_append, List.append_assoc, scanValue_obj level fuel opens (by decide), ← inside,
      ← ofMembers_map_some]
    simp [read]

end Nested

/-- A plain value that is not nested too deeply is read back from its text. -/
theorem reads_of_plain (layout : Json.Layout) {depth : Nat} {value : Json}
    (plain : value.Plain depth) {level : Nat} (shallow : level + depth ≤ deepest) :
    Reads layout level value := by
  induction plain generalizing level with
  | @null depth =>
    exact reads_of_succ (@Json.Plain.null depth) fun _ fuel _ _ _ => scanValue_null level fuel
  | @bool depth flag =>
    exact reads_of_succ (@Json.Plain.bool depth flag) fun _ fuel _ _ _ =>
      scanValue_bool level fuel flag
  | @str depth text =>
    exact reads_of_succ (@Json.Plain.str depth text) fun _ fuel _ _ _ =>
      scanValue_str level fuel text
  | @int depth n low high =>
    exact reads_of_succ (@Json.Plain.int depth n low high) fun _ fuel _ ended _ =>
      scanValue_int level fuel low high ended
  | arr each ih =>
    apply reads_arr (by omega) each
    intro item member
    exact ih item member (by omega)
  | obj each ih =>
    apply reads_obj (by omega) each
    intro member among
    exact ih member among (by omega)

/-- A plain value is read back from a text of its own. -/
theorem parse?_layout (layout : Json.Layout) {depth : Nat} {value : Json}
    (plain : value.Plain depth) (shallow : depth ≤ deepest) {text : String}
    (laid : text.toList = layout.chars 0 value) : parse? text = some (ofJson value) := by
  have reads : Reads layout 0 value := reads_of_plain layout plain (by omega)
  have read := reads 0 (2 * text.toList.length + 2) [] (by simp [Ended]) (by rw [laid]; omega)
  rw [List.append_nil, ← laid] at read
  simp [parse?, read, skipSpace]

/-- A plain value is read back from its one-line text. -/
theorem parse?_render {depth : Nat} {value : Json} (plain : value.Plain depth)
    (shallow : depth ≤ deepest) : parse? value.render = some (ofJson value) :=
  parse?_layout .compact plain shallow (Json.Layout.toList_render value 0)

/-- A plain value is read back from its text over several lines. -/
theorem parse?_pretty {depth : Nat} {value : Json} (plain : value.Plain depth)
    (shallow : depth ≤ deepest) : parse? value.pretty = some (ofJson value) :=
  parse?_layout .indented plain shallow (Json.Layout.toList_prettyAt value 0)

end VmLaunch.Written
