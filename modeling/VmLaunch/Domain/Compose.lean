import VmLaunch.Domain.ComposeData
import VmLaunch.Domain.Table

/-!
# Composed characters

A letter and its marks may be written as one character or as several, and marks of
different classes in any order. `compose` yields the one spelling in which marks stand
by increasing class and every pair that has a character of its own is written so.
-/

namespace VmLaunch.Domain

/-- A pair of characters and the character that it is written as. -/
structure Composition where
  first : Nat
  second : Nat
  whole : Nat

/-- The compositions of a row. -/
def Composition.ofCells : List (List Nat) → List Composition
  | [first] :: rest =>
    rest.filterMap fun
      | [second, whole] => some ⟨first, second, whole⟩
      | _ => none
  | _ => []

/-- All compositions but those of Hangul syllables. -/
def compositions : List Composition :=
  (Table.rows ComposeData.pairs).flatMap Composition.ofCells

/-- The combining classes other than zero with their characters. -/
def combiningClasses : List (Nat × List Span) :=
  ComposeData.classes.map fun (value, line) => (value, Table.spansOf line)

/-- The combining class of a character. -/
def combiningClass (n : Nat) : Nat :=
  if n < 0x300 then 0
  else
    match combiningClasses.find? fun (_, spans) => Table.holds spans n with
    | some (value, _) => value
    | none => 0

/-- Whether a number is that of a Hangul syllable. -/
def isHangul (n : Nat) : Bool :=
  0xAC00 ≤ n && n ≤ 0xD7A3

/-- The parts of a Hangul syllable: two, or three when it has a final. -/
def hangulParts (n : Nat) : List Nat :=
  let index := n - 0xAC00
  let final := if index % 28 == 0 then [] else [0x11A7 + index % 28]
  [0x1100 + index / 588, 0x1161 + index % 588 / 28] ++ final

/-- The parts of a character, which have none themselves. -/
def parts : Nat → Nat → List Nat
  | 0, n => [n]
  | fuel + 1, n =>
    if isHangul n then hangulParts n
    else
      match compositions.find? fun c => c.whole == n with
      | some c => parts fuel c.first ++ [c.second]
      | none => [n]

/-- Put a character in front of ordered ones, after the marks of a lower class. -/
def insertMark (n : Nat) : List Nat → List Nat
  | [] => [n]
  | m :: rest =>
    if combiningClass m != 0 && combiningClass m < combiningClass n then m :: insertMark n rest
    else n :: m :: rest

/-- Marks between two letters by increasing class, those of one class as they stood. -/
def orderMarks (ns : List Nat) : List Nat :=
  ns.foldr insertMark []

/-- The Hangul syllable of two parts. -/
def hangulWhole? (a b : Nat) : Option Nat :=
  if 0x1100 ≤ a && a < 0x1113 && 0x1161 ≤ b && b < 0x1176 then
    some (0xAC00 + 588 * (a - 0x1100) + 28 * (b - 0x1161))
  else if isHangul a && (a - 0xAC00) % 28 == 0 && 0x11A7 < b && b < 0x11C3 then
    some (a + (b - 0x11A7))
  else none

/-- The character that a pair is written as. -/
def whole? (a b : Nat) : Option Nat :=
  match hangulWhole? a b with
  | some n => some n
  | none => (compositions.find? fun c => c.first == a && c.second == b).map Composition.whole

/-- Compose what follows a character of class zero, with the marks passed over since
and the class of the last of them. -/
def composeAfter (base : Nat) (passed : List Nat) (last : Nat) : List Nat → List Nat
  | [] => base :: passed
  | n :: rest =>
    let value := combiningClass n
    match if passed.isEmpty || last < value then whole? base n else none with
    | some whole => composeAfter whole passed last rest
    | none =>
      if value == 0 then base :: passed ++ composeAfter n [] 0 rest
      else composeAfter base (passed ++ [n]) value rest

/-- Compose ordered characters. -/
def composeOrdered : List Nat → List Nat
  | [] => []
  | n :: rest =>
    if combiningClass n == 0 then composeAfter n [] 0 rest else n :: composeOrdered rest

/-- The composed spelling of characters. -/
def compose (cs : List Char) : List Char :=
  if cs.all fun c => c.toNat < 0x80 then cs
  else (composeOrdered (orderMarks (cs.flatMap fun c => parts 8 c.toNat))).map Char.ofNat

end VmLaunch.Domain
