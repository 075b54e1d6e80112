import VmLaunch.Domain.ImageData
import VmLaunch.Domain.Table

/-!
# Images of characters

Spellings of a domain name that a reader takes for the same are the same name.
`image?` sends every character to the characters that stand for it: itself, those of
another case or width, or none. A character that no name may contain has no image.
-/

namespace VmLaunch.Domain

/-- A run of characters whose images move along with them. -/
structure ImageRun where
  first : Nat
  last : Nat
  step : Nat
  image : Nat

/-- A row of images of neighbouring characters. -/
structure ImageRow where
  first : Nat
  images : List (List Nat)

/-- The run that a row of four numbers stands for. -/
def ImageRun.ofCells? : List (List Nat) → Option ImageRun
  | [[first], [last], [step], [image]] => some ⟨first, last, step, image⟩
  | _ => none

/-- The row of images after the number of its first character. -/
def ImageRow.ofCells? : List (List Nat) → Option ImageRow
  | [first] :: images => some ⟨first, images⟩
  | _ => none

/-- Characters whose images move along with them. -/
def imageRuns : List ImageRun :=
  (Table.rows ImageData.runs).filterMap ImageRun.ofCells?

/-- Characters whose images are listed. -/
def imageRows : List ImageRow :=
  (Table.rows ImageData.sequences).filterMap ImageRow.ofCells?

/-- Characters that are left out. -/
def ignored : List Span :=
  Table.spans ImageData.ignored

/-- Characters that no name may contain. -/
def refused : List Span :=
  Table.spans ImageData.refused

/-- The image of a character under a run. -/
def ImageRun.apply? (run : ImageRun) (n : Nat) : Option Nat :=
  if run.first ≤ n && n ≤ run.last && (n - run.first) % run.step == 0 then
    some (run.image + (n - run.first))
  else none

/-- The image of a character in a row. -/
def ImageRow.apply? (row : ImageRow) (n : Nat) : Option (List Nat) :=
  if row.first ≤ n then row.images[n - row.first]? else none

/-- The characters that a character outside ASCII becomes. -/
def moved (c : Char) : List Char :=
  match imageRuns.findSome? fun run => run.apply? c.toNat with
  | some n => [Char.ofNat n]
  | none =>
    match imageRows.findSome? fun row => row.apply? c.toNat with
    | some image => image.map Char.ofNat
    | none => [c]

/-- The characters that stand for a character of a name. -/
def image? (c : Char) : Option (List Char) :=
  if c.toNat < 0x80 then some [c.toLower]
  else if Table.holds ignored c.toNat then some []
  else if Table.holds refused c.toNat then none
  else some (moved c)

/-- Whether a character is its own image. -/
def isSettled (c : Char) : Bool :=
  image? c == some [c]

end VmLaunch.Domain
