import VmLaunch.Decimal.Text
import VmLaunch.Json.Basic

/-!
# JSON as it is written

`Written.parse?` decides whether a text is JSON and retains what it says as a
tree. A part that is well formed but has no value — a lone surrogate, a number
beyond the range of doubles, a list or object more than 127 levels deep — stays
in the tree as `unreadable`: it is an error only for a reader that needs it, and
a reader that passes over an unknown member does not.
-/

namespace VmLaunch

/-- JSON text as a tree, members in the order in which they are written. -/
inductive Written where
  | null
  | bool (value : Bool)
  | num (value : JsonNumber)
  | str (value : String)
  | arr (items : List Written)
  | obj (members : List (String × Written))
  | unreadable
  deriving Inhabited

namespace Written

/-- The deepest level at which a list or object can be read. -/
def deepest : Nat := 127

/-- Whether a character may stand between the parts of JSON text. -/
def isSpace (c : Char) : Bool :=
  c == ' ' || c == '\n' || c == '\t' || c == '\r'

/-- The characters after leading space. -/
def skipSpace (cs : List Char) : List Char :=
  cs.dropWhile isSpace

/-- The value of one hexadecimal digit. -/
def hexValue? (c : Char) : Option Nat :=
  if '0' ≤ c && c ≤ '9' then some (c.toNat - 48)
  else if 'a' ≤ c && c ≤ 'f' then some (c.toNat - 87)
  else if 'A' ≤ c && c ≤ 'F' then some (c.toNat - 55)
  else none

/-- The value of four hexadecimal digits. -/
def hex4? (a b c d : Char) : Option Nat :=
  match hexValue? a, hexValue? b, hexValue? c, hexValue? d with
  | some a, some b, some c, some d => some (((a * 16 + b) * 16 + c) * 16 + d)
  | _, _, _, _ => none

/-- The character that follows a backslash, when it stands for one character. -/
def escaped? (c : Char) : Option Char :=
  if c == '"' || c == '\\' || c == '/' then some c
  else if c == 'b' then some (Char.ofNat 8)
  else if c == 'f' then some (Char.ofNat 12)
  else if c == 'n' then some '\n'
  else if c == 'r' then some '\r'
  else if c == 't' then some '\t'
  else none

/-- Whether a number is the first half of a surrogate pair. -/
def isHighSurrogate (n : Nat) : Bool :=
  0xD800 ≤ n && n < 0xDC00

/-- Whether a number is the second half of a surrogate pair. -/
def isLowSurrogate (n : Nat) : Bool :=
  0xDC00 ≤ n && n < 0xE000

/-- The character of a surrogate pair. -/
def pairChar (high low : Nat) : Char :=
  Char.ofNat (0x10000 + (high - 0xD800) * 0x400 + (low - 0xDC00))

/-- Read to the closing quote. `pending` is a first half of a surrogate pair that
still needs its second half; `sound` records that no half stood alone. -/
def scanString (taken : List Char) (pending : Option Nat) (sound : Bool) :
    List Char → Option (Option String × List Char)
  | [] => none
  | '"' :: rest =>
    some (if sound && pending.isNone then some (String.ofList taken.reverse) else none, rest)
  | '\\' :: 'u' :: a :: b :: c :: d :: rest =>
    match hex4? a b c d with
    | none => none
    | some n =>
      match pending with
      | some high =>
        if isLowSurrogate n then scanString (pairChar high n :: taken) none sound rest
        else if isHighSurrogate n then scanString taken (some n) false rest
        else scanString (Char.ofNat n :: taken) none false rest
      | none =>
        if isHighSurrogate n then scanString taken (some n) sound rest
        else if isLowSurrogate n then scanString taken none false rest
        else scanString (Char.ofNat n :: taken) none sound rest
  | '\\' :: c :: rest =>
    match escaped? c with
    | some e => scanString (e :: taken) none (sound && pending.isNone) rest
    | none => none
  | c :: rest =>
    if c.toNat < 32 || c == '\\' then none
    else scanString (c :: taken) none (sound && pending.isNone) rest

/-- A decimal significand under construction: further digits of the integer part
only move the power of ten once sixty-four bits are full. -/
structure Significand where
  value : Nat
  power : Int
  full : Bool

/-- Take one more digit of the integer part. -/
def Significand.whole (s : Significand) (c : Char) : Significand :=
  let next := 10 * s.value + (c.toNat - 48)
  if s.full || 0x10000000000000000 ≤ next then { s with power := s.power + 1, full := true }
  else { s with value := next }

/-- Take one more digit after the point; a digit that does not fit is dropped. -/
def Significand.part (s : Significand) (c : Char) : Significand :=
  let next := 10 * s.value + (c.toNat - 48)
  if s.full || 0x10000000000000000 ≤ next then { s with full := true }
  else { s with value := next, power := s.power - 1 }

/-- Scale a double by a power of ten, in steps of at most `10 ^ 308`; nothing when
the result is too large. -/
def scale? (x : Binary64) (power : Int) : Nat → Option Binary64
  | 0 => some x
  | steps + 1 =>
    if power.natAbs ≤ 308 then
      let ten := Binary64.ofNat (Nat.pow 10 power.natAbs)
      if 0 ≤ power then
        let y := x.timesMagnitude ten
        if y.isFinite then some y else none
      else some (x.overMagnitude ten)
    else if x.isZero then some x
    else if 0 ≤ power then none
    else scale? (x.overMagnitude (Binary64.ofNat (Nat.pow 10 308))) (power + 308) steps

/-- The double of a significand: both it and the power of ten are rounded before
they are multiplied or divided. -/
def Significand.double? (s : Significand) (negative : Bool) : Option Binary64 :=
  (scale? (Binary64.ofNat s.value) s.power 4).map (Binary64.withSign negative)

/-- The tree of a number, when its text has an integer part only. -/
def wholeNumber (negative : Bool) (digits : List Char) : Written :=
  let n := Binary64.digitsValue digits
  if !negative && n < 0x10000000000000000 then .num (.int (Int.ofNat n))
  else if negative && 0 < n && n ≤ 0x8000000000000000 then .num (.int (-Int.ofNat n))
  else
    match (digits.foldl Significand.whole ⟨0, 0, false⟩).double? negative with
    | some x => .num (.float x)
    | none => .unreadable

/-- The tree of a number with a fraction or an exponent. -/
def partNumber (negative : Bool) (digits fraction : List Char) (power : Int) : Written :=
  let whole := digits.foldl Significand.whole ⟨0, 0, false⟩
  let s := fraction.foldl Significand.part { whole with full := false }
  match ({ s with power := s.power + power }).double? negative with
  | some x => .num (.float x)
  | none => .unreadable

/-- An exponent after its letter, when there is one at the head. -/
def scanExponent : List Char → Option (Option Int × List Char)
  | [] => some (none, [])
  | c :: rest =>
    if c == 'e' || c == 'E' then
      let (negative, body) :=
        match rest with
        | '-' :: r => (true, r)
        | '+' :: r => (false, r)
        | r => (false, r)
      let digits := body.takeWhile Binary64.isDigit
      if digits.isEmpty then none
      else
        let n := Int.ofNat (Binary64.digitsValue digits)
        some (some (if negative then -n else n), body.dropWhile Binary64.isDigit)
    else some (none, c :: rest)

/-- A number at the head, its sign already taken. -/
def scanNumber (negative : Bool) (cs : List Char) : Option (Written × List Char) :=
  let digits := cs.takeWhile Binary64.isDigit
  let afterDigits := cs.dropWhile Binary64.isDigit
  if digits.isEmpty || (digits.head? == some '0' && 1 < digits.length) then none
  else
    match afterDigits with
    | '.' :: r =>
      let fraction := r.takeWhile Binary64.isDigit
      if fraction.isEmpty then none
      else
        (scanExponent (r.dropWhile Binary64.isDigit)).map fun (power, tail) =>
          (partNumber negative digits fraction (power.getD 0), tail)
    | r =>
      (scanExponent r).map fun (power, tail) =>
        match power with
        | some power => (partNumber negative digits [] power, tail)
        | none => (wholeNumber negative digits, tail)

/-- A list or object at a level, unreadable beyond the deepest level. -/
def atLevel (level : Nat) (tree : Written) : Written :=
  if level ≤ deepest then tree else .unreadable

/-- The tree of an object; one of its keys may have had no value. -/
def ofMembers (members : List (Option String × Written)) : Written :=
  match members.mapM fun (key, value) => key.map fun key => (key, value) with
  | some members => .obj members
  | none => .unreadable

mutual

/-- One value at the head of the characters, within `level` lists and objects. -/
def scanValue (level : Nat) : Nat → List Char → Option (Written × List Char)
  | 0, _ => none
  | fuel + 1, cs =>
    match skipSpace cs with
    | [] => none
    | 'n' :: 'u' :: 'l' :: 'l' :: rest => some (.null, rest)
    | 't' :: 'r' :: 'u' :: 'e' :: rest => some (.bool true, rest)
    | 'f' :: 'a' :: 'l' :: 's' :: 'e' :: rest => some (.bool false, rest)
    | '-' :: rest => scanNumber true rest
    | '"' :: rest =>
      (scanString [] none true rest).map fun (s, tail) =>
        match s with
        | some s => (.str s, tail)
        | none => (.unreadable, tail)
    | '[' :: rest =>
      match skipSpace rest with
      | ']' :: tail => some (atLevel (level + 1) (.arr []), tail)
      | body =>
        (scanItems (level + 1) fuel body).map fun (items, tail) =>
          (atLevel (level + 1) (.arr items), tail)
    | c :: rest =>
      if c.toNat == 0x7B then
        match skipSpace rest with
        | [] => none
        | d :: tail =>
          if d.toNat == 0x7D then some (atLevel (level + 1) (.obj []), tail)
          else
            (scanMembers (level + 1) fuel (d :: tail)).map fun (members, tail) =>
              (atLevel (level + 1) (ofMembers members), tail)
      else scanNumber false (c :: rest)

/-- The items of a list up to and with its closing bracket. -/
def scanItems (level : Nat) : Nat → List Char → Option (List Written × List Char)
  | 0, _ => none
  | fuel + 1, cs =>
    match scanValue level fuel cs with
    | none => none
    | some (value, rest) =>
      match skipSpace rest with
      | ',' :: tail =>
        (scanItems level fuel tail).map fun (items, tail) => (value :: items, tail)
      | ']' :: tail => some ([value], tail)
      | _ => none

/-- The members of an object up to and with its closing brace. -/
def scanMembers (level : Nat) :
    Nat → List Char → Option (List (Option String × Written) × List Char)
  | 0, _ => none
  | fuel + 1, cs =>
    match skipSpace cs with
    | '"' :: afterQuote =>
      match scanString [] none true afterQuote with
      | none => none
      | some (key, afterKey) =>
        match skipSpace afterKey with
        | ':' :: afterColon =>
          match scanValue level fuel afterColon with
          | none => none
          | some (value, rest) =>
            match skipSpace rest with
            | ',' :: tail =>
              (scanMembers level fuel tail).map fun (members, tail) =>
                ((key, value) :: members, tail)
            | c :: tail => if c.toNat == 0x7D then some ([(key, value)], tail) else none
            | [] => none
        | _ => none
    | _ => none

end

/-- The tree of a text that is one JSON value. -/
def parse? (s : String) : Option Written :=
  let cs := s.toList
  match scanValue 0 (2 * cs.length + 2) cs with
  | some (tree, rest) => if (skipSpace rest).isEmpty then some tree else none
  | none => none

mutual

/-- The value of a tree, when every part of it has one. -/
def value? : Written → Option Json
  | .null => some .null
  | .bool b => some (.bool b)
  | .num n => some (.num n)
  | .str s => some (.str s)
  | .arr items => (valueItems? items).map Json.arr
  | .obj members => (valueMembers? members).map Json.obj
  | .unreadable => none

/-- The values of the items. -/
def valueItems? : List Written → Option (List Json)
  | [] => some []
  | tree :: rest =>
    match value? tree, valueItems? rest with
    | some value, some values => some (value :: values)
    | _, _ => none

/-- The values of the members. -/
def valueMembers? : List (String × Written) → Option (List (String × Json))
  | [] => some []
  | (key, tree) :: rest =>
    match value? tree, valueMembers? rest with
    | some value, some values => some ((key, value) :: values)
    | _, _ => none

end

end Written

/-- The value that a JSON text says, in normal form. -/
def Json.parse? (s : String) : Option Json :=
  (Written.parse? s).bind fun tree => tree.value?.map Json.normal

end VmLaunch
