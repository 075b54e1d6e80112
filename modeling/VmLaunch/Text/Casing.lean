import VmLaunch.Text.CaseData

/-!
# Full case mapping

`upper` and `lower` map every character by the Unicode full case mappings, so
one character may become several. The capital sigma is the only character whose
lower-case form depends on its surroundings: it takes the final form after a
cased character when no cased character follows, case-ignorable characters in
between being passed over.
-/

namespace VmLaunch.Text

open CaseData

/-- The image of a character under the runs, when one of them moves it. -/
def Run.image? (runs : List Run) (n : Nat) : Option Nat :=
  match runs with
  | [] => none
  | r :: rest =>
    if r.first ≤ n && n ≤ r.last && (n - r.first) % r.step == 0 then
      some (Int.toNat (Int.ofNat n + r.shift))
    else Run.image? rest n

/-- Map one character by a table of several-character images and runs. -/
def mapCase (many : List (Nat × List Nat)) (runs : List Run) (c : Char) : List Char :=
  match many.lookup c.toNat with
  | some image => image.map Char.ofNat
  | none =>
    match Run.image? runs c.toNat with
    | some n => [Char.ofNat n]
    | none => [c]

/-- Full upper-case form of one character. -/
def upperChar (c : Char) : List Char :=
  if c.toNat < 0x80 then [c.toUpper] else mapCase upperMany upperRuns c

/-- Full lower-case form of one character without regard to its surroundings. -/
def lowerChar (c : Char) : List Char :=
  if c.toNat < 0x80 then [c.toLower] else mapCase lowerMany lowerRuns c

/-- Whether a number lies within one of the ranges. -/
def inRanges (ranges : List (Nat × Nat)) (n : Nat) : Bool :=
  ranges.any fun (first, last) => first ≤ n && n ≤ last

/-- Whether the first character that is not case-ignorable is cased. -/
def casedNext (cs : List Char) : Bool :=
  match cs.dropWhile fun c => inRanges ignorableRanges c.toNat with
  | [] => false
  | c :: _ => inRanges casedRanges c.toNat

/-- Lower-case the characters that follow `before`, nearest character first. -/
def lowerAfter (before : List Char) : List Char → List Char
  | [] => []
  | c :: rest =>
    let image :=
      if c.toNat = 0x3A3 then
        if casedNext before && !casedNext rest then [Char.ofNat 0x3C2] else [Char.ofNat 0x3C3]
      else lowerChar c
    image ++ lowerAfter (c :: before) rest

/-- Text in lower case. -/
def lower (s : String) : String :=
  String.ofList (lowerAfter [] s.toList)

/-- Text in upper case. -/
def upper (s : String) : String :=
  String.ofList (s.toList.flatMap upperChar)

end VmLaunch.Text
