import VmLaunch.Domain.ClassData
import VmLaunch.Domain.Compose
import VmLaunch.Domain.Image
import VmLaunch.Domain.Punycode

/-!
# Labels

A label of a domain name does not begin with a mark, and holds a joiner only where it
changes how its neighbours are written. A label that is announced as Punycode stands
for the label that it encodes, which must be spelled as it would be found in a name.
-/

namespace VmLaunch.Domain

/-- Combining marks. -/
def marks : List Span :=
  Table.spans ClassData.marks

/-- Characters that join the next one. -/
def joiningNext : List Span :=
  Table.spans ClassData.joinsBefore ++ Table.spans ClassData.joinsBoth

/-- Characters that join the one before. -/
def joiningPrevious : List Span :=
  Table.spans ClassData.joinsAfter ++ Table.spans ClassData.joinsBoth

/-- Characters that joining passes over. -/
def transparent : List Span :=
  Table.spans ClassData.transparent

/-- Whether the first of the characters that joining does not pass over is in a table. -/
def meets (table : List Span) (cs : List Char) : Bool :=
  match cs.dropWhile fun c => Table.holds transparent c.toNat with
  | [] => false
  | c :: _ => Table.holds table c.toNat

/-- The character that keeps its neighbours apart. -/
def nonJoiner : Char :=
  Char.ofNat 0x200C

/-- The character that joins its neighbours. -/
def joiner : Char :=
  Char.ofNat 0x200D

/-- Whether a joiner may stand between characters, the nearest one before it first. -/
def mayJoin (c : Char) (before after : List Char) : Bool :=
  match before with
  | [] => false
  | previous :: _ =>
    combiningClass previous.toNat == 9 ||
      (c == nonJoiner && meets joiningNext before && meets joiningPrevious after)

/-- Whether every joiner after the characters before has its place. -/
def joinersHavePlace (before : List Char) : List Char → Bool
  | [] => true
  | c :: rest =>
    (!(c == nonJoiner || c == joiner) || mayJoin c before rest) &&
      joinersHavePlace (c :: before) rest

/-- Whether all characters are ASCII. -/
def isAscii (cs : List Char) : Bool :=
  cs.all fun c => c.toNat < 0x80

/-- Whether a label may stand in a name. -/
def isSound (label : List Char) : Bool :=
  isAscii label ||
    (!(label.head?.any fun c => Table.holds marks c.toNat) && joinersHavePlace [] label &&
      label.length ≤ 1000)

/-- What announces a label in Punycode. -/
def punycodeMark : List Char :=
  "xn--".toList

/-- The label that a label in Punycode stands for. -/
def announced? (code : List Char) : Option (List Char) :=
  if !isAscii code || code.isEmpty || code.getLast? == some '-' || 2000 < code.length then none
  else
    match Punycode.decode? code with
    | some label =>
      if !isAscii label && label.all isSettled && compose label == label then some label else none
    | none => none

/-- The label that a label of a name stands for. -/
def meaning? (label : List Char) : Option (List Char) :=
  let found :=
    if punycodeMark.isPrefixOf label then announced? (label.drop punycodeMark.length)
    else some label
  found.filter isSound

/-- A label in ASCII. -/
def written (label : List Char) : List Char :=
  if isAscii label then label else punycodeMark ++ Punycode.encode label

end VmLaunch.Domain
