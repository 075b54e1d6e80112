import VmLaunch.Json.Written
import VmLaunch.Text.Pieces

/-!
# Tables of characters

What is known about characters is written as lines of hexadecimal numbers: spans of
characters between blanks, or rows between commas. A table is read once and then
searched.
-/

namespace VmLaunch.Domain

/-- The characters from one number to another. -/
structure Span where
  first : Nat
  last : Nat
  deriving DecidableEq, Inhabited

namespace Table

/-- The value of hexadecimal digits. -/
def number (cs : List Char) : Nat :=
  cs.foldl (fun n c => 16 * n + (Written.hexValue? c).getD 0) 0

/-- A span written as its ends with a hyphen between them, or as one number. -/
def span (cs : List Char) : Span :=
  match Text.cutChars? '-' cs with
  | some (first, last) => ⟨number first, number last⟩
  | none => ⟨number cs, number cs⟩

/-- The spans of a line. -/
def spansOf (line : String) : List Span :=
  (Text.splitOn ' ' line.toList).map span

/-- The spans of lines. -/
def spans (lines : List String) : List Span :=
  lines.flatMap spansOf

/-- Whether a character lies within one of the spans. -/
def holds (table : List Span) (n : Nat) : Bool :=
  table.any fun s => s.first ≤ n && n ≤ s.last

/-- The cells of a row: numbers joined by plus signs. -/
def cells (row : List Char) : List (List Nat) :=
  ((Text.splitOn ' ' row).filter fun cell => !cell.isEmpty).map fun cell =>
    (Text.splitOn '+' cell).map number

/-- The rows of lines. -/
def rows (lines : List String) : List (List (List Nat)) :=
  lines.flatMap fun line => (Text.splitOn ',' line.toList).map cells

end Table

end VmLaunch.Domain
