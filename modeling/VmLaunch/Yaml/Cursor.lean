/-!
# Places in YAML text

A `Cursor` is a place in a text: the characters that are left, how many have gone
before, and the line and column. Only spaces and tabs are blanks, and five characters
break a line; a carriage return with a line feed is one break.
-/

namespace VmLaunch.Yaml

/-- Whether a character is a blank. -/
def isBlank (c : Char) : Bool :=
  c == ' ' || c == '\t'

/-- Whether a character breaks a line. -/
def isBreak (c : Char) : Bool :=
  c == '\n' || c == '\r' || c.toNat == 0x85 || c.toNat == 0x2028 || c.toNat == 0x2029

/-- Whether a character is a blank or breaks a line. -/
def isGap (c : Char) : Bool :=
  isBlank c || isBreak c

/-- Whether a character may occur in YAML text. -/
def isAllowed (c : Char) : Bool :=
  let n := c.toNat
  n == 9 || n == 10 || n == 13 || (32 ≤ n && n ≤ 126) || n == 0x85 || (0xA0 ≤ n && n ≤ 0xD7FF) ||
    (0xE000 ≤ n && n ≤ 0xFFFD) || 0x10000 ≤ n

/-- Whether a character may occur in the name of an anchor or of a tag handle. -/
def isWordChar (c : Char) : Bool :=
  c.isAlphanum || c == '_' || c == '-'

/-- Whether a gap or the end comes next. -/
def gapNext : List Char → Bool
  | [] => true
  | c :: _ => isGap c

/-- A place in a text. -/
structure Cursor where
  rest : List Char
  index : Nat := 0
  line : Nat := 0
  column : Nat := 0
  deriving Inhabited

namespace Cursor

/-- Whether the next character has a property. -/
def nextIs (c : Cursor) (p : Char → Bool) : Bool :=
  c.rest.head?.any p

/-- The place some characters further on the line. -/
def skip (count : Nat) (c : Cursor) : Cursor :=
  { c with rest := c.rest.drop count, index := c.index + count, column := c.column + count }

/-- The place after the characters with a property. -/
def skipWhile (p : Char → Bool) (c : Cursor) : Cursor :=
  c.skip (c.rest.takeWhile p).length

/-- The place after a line break. -/
def skipBreak (c : Cursor) : Cursor :=
  match c.rest with
  | '\r' :: '\n' :: rest => ⟨rest, c.index + 2, c.line + 1, 0⟩
  | _ :: rest => ⟨rest, c.index + 1, c.line + 1, 0⟩
  | [] => c

/-- The text of the line break that comes next, if any: separators stand for themselves,
every other break for a line feed. -/
def breakText (c : Cursor) : List Char :=
  match c.rest with
  | ch :: _ => if !isBreak ch then [] else if 0x2028 ≤ ch.toNat then [ch] else ['\n']
  | [] => []

/-- The place after blanks and a comment. -/
def skipComment (c : Cursor) : Cursor :=
  if c.nextIs (· == '#') then c.skipWhile fun ch => !isBreak ch else c

/-- Whether three hyphens stand here at the head of a line. -/
def atDocumentStart (c : Cursor) : Bool :=
  match c.column, c.rest with
  | 0, '-' :: '-' :: '-' :: rest => gapNext rest
  | _, _ => false

/-- Whether three dots stand here at the head of a line. -/
def atDocumentEnd (c : Cursor) : Bool :=
  match c.column, c.rest with
  | 0, '.' :: '.' :: '.' :: rest => gapNext rest
  | _, _ => false

/-- Whether the mark of a document stands here. -/
def atDocumentMark (c : Cursor) : Bool :=
  c.atDocumentStart || c.atDocumentEnd

end Cursor

end VmLaunch.Yaml
