import VmLaunch.Domain.ClassData
import VmLaunch.Domain.Table

/-!
# Writing direction of labels

Labels that run from right to left are read unambiguously beside others only when no
label mixes directions. Once a name has a character from right to left or an Arabic
digit, every label of it begins with a letter of its direction, ends with such a letter
or a digit, marks aside, and has no letter of the other direction.
-/

namespace VmLaunch.Domain

/-- How a character takes part in the direction of its label. -/
inductive Direction where
  | leftToRight
  | rightToLeft
  | arabicDigit
  | europeanDigit
  | mark
  | neutral
  deriving DecidableEq, Inhabited

/-- The tables of the directions. -/
def directions : List (Direction × List Span) :=
  [
    (.rightToLeft, Table.spans ClassData.rightToLeft),
    (.arabicDigit, Table.spans ClassData.arabicDigits),
    (.europeanDigit, Table.spans ClassData.europeanDigits),
    (.mark, Table.spans ClassData.spacelessMarks),
    (.neutral, Table.spans ClassData.neutral)]

/-- The direction of a character. -/
def direction (c : Char) : Direction :=
  if c.toNat < 0x80 then
    if c.isAlpha then .leftToRight else if c.isDigit then .europeanDigit else .neutral
  else
    match directions.find? fun (_, spans) => Table.holds spans c.toNat with
    | some (value, _) => value
    | none => .leftToRight

/-- Whether a character makes the direction of every label matter. -/
def isTurning (c : Char) : Bool :=
  direction c == .rightToLeft || direction c == .arabicDigit

/-- The directions after the first character of a label, without the marks at the end. -/
def inner (rest : List Char) : List Direction :=
  ((rest.map direction).reverse.dropWhile (· == .mark)).reverse

/-- Whether a label keeps to one direction. -/
def keepsDirection : List Char → Bool
  | [] => true
  | first :: rest =>
    let others := inner rest
    let last := others.getLast?
    match direction first with
    | .leftToRight =>
      others.all (fun d => d != .rightToLeft && d != .arabicDigit) &&
        (last == none || last == some .leftToRight || last == some .europeanDigit)
    | .rightToLeft =>
      others.all (· != .leftToRight) && last != some .neutral &&
        !(others.contains .arabicDigit && others.contains .europeanDigit)
    | _ => false

end VmLaunch.Domain
