import VmLaunch.Decimal.Binary64
import VmLaunch.Yaml.Basic
import VmLaunch.Yaml.Scalar

/-!
# YAML tokens

The characters of a document are cut into tokens. Block collections are told by columns:
one begins where an entry stands further to the right than the collection around it, and
ends before a token further to the left. A value before a colon is a key; only then is a
token put in front of it, so as long as a key is possible its place is remembered.
-/

namespace VmLaunch.Yaml

/-- A part of a document. -/
inductive Token where
  | version (major minor : Nat)
  | handle (handle start : String)
  | documentStart
  | documentEnd
  | blockList
  | blockMapping
  | blockEnd
  | flowList
  | flowListEnd
  | flowMapping
  | flowMappingEnd
  | blockEntry
  | flowEntry
  | key
  | value
  | alias (name : String)
  | anchor (name : String)
  | tag (handle suffix : String)
  | scalar (style : Style) (text : String)
  deriving DecidableEq, Inhabited

section Names

/-- Read the name after the mark of an anchor or alias. -/
def readName? (c : Cursor) : Option (String × Cursor) :=
  let name := c.rest.takeWhile isWordChar
  let after := c.skip name.length
  if !name.isEmpty && (gapNext after.rest || after.nextIs "?:,]\x7d%@\x60".toList.contains) then
    some (String.ofList name, after)
  else none

/-- Read a byte written as a percent sign and two hexadecimal digits. -/
def escapedByte? : List Char → Option (UInt8 × List Char)
  | '%' :: a :: b :: rest => (hexValue? [a, b]).map fun n => (UInt8.ofNat n, rest)
  | _ => none

/-- Read some escaped bytes. -/
def escapedBytes? : Nat → List Char → Option (List UInt8 × List Char)
  | 0, cs => some ([], cs)
  | count + 1, cs =>
    match escapedByte? cs with
    | some (byte, rest) =>
      (escapedBytes? count rest).map fun (bytes, rest) => (byte :: bytes, rest)
    | none => none

/-- The number of bytes of a character, from its first one. -/
def byteCount (b : UInt8) : Nat :=
  if b < 0x80 then 1 else if b < 0xE0 then 2 else if b < 0xF0 then 3 else 4

/-- Read a character whose bytes are escaped. -/
def escapedChars? (cs : List Char) : Option (List Char × List Char) :=
  (escapedByte? cs).bind fun (first, _) =>
    (escapedBytes? (byteCount first) cs).bind fun (bytes, rest) =>
      (String.fromUTF8? ⟨bytes.toArray⟩).map fun s => (s.toList, rest)

/-- Whether a character may stand in a tag; between angle brackets more may. -/
def isTagChar (verbatim : Bool) (c : Char) : Bool :=
  isWordChar c || ";/?:@&=+$.!~*'()".toList.contains c || (verbatim && ",[]".toList.contains c)

/-- Read the characters of a tag. -/
def readTagText? (verbatim : Bool) : Nat → List Char → Option (List Char × List Char)
  | 0, _ => none
  | fuel + 1, cs =>
    match cs with
    | [] => some ([], [])
    | c :: rest =>
      if c == '%' then
        match escapedChars? cs with
        | some (found, rest) =>
          (readTagText? verbatim fuel rest).map fun (text, rest) => (found ++ text, rest)
        | none => none
      else if isTagChar verbatim c then
        (readTagText? verbatim fuel rest).map fun (text, rest) => (c :: text, rest)
      else some ([], cs)

/-- The place after characters of which `rest` is left. -/
def Cursor.upTo (c : Cursor) (rest : List Char) : Cursor :=
  c.skip (c.rest.length - rest.length)

/-- The handle at the head of a tag: a word between exclamation marks, of which the
second may be missing. -/
def handleText : List Char → List Char
  | '!' :: rest =>
    let word := rest.takeWhile isWordChar
    let closing := (rest.drop word.length).take 1
    '!' :: word ++ (if closing == ['!'] then ['!'] else [])
  | _ => []

/-- Whether a handle has both its marks. -/
def isWholeHandle (handle : List Char) : Bool :=
  1 < handle.length && handle.getLast? == some '!'

/-- Read a tag after its place has been found: its handle and the rest of it. The tag of
an exclamation mark alone has no handle. -/
def readTag? (c : Cursor) : Option (Token × Cursor) :=
  let fuel := c.rest.length + 1
  let handle := handleText c.rest
  match c.rest with
  | '!' :: '<' :: rest =>
    match readTagText? true fuel rest with
    | some (text, '>' :: left) =>
      if text.isEmpty then none else some (.tag "" (String.ofList text), c.upTo left)
    | _ => none
  | _ =>
    if isWholeHandle handle then
      match readTagText? false fuel (c.rest.drop handle.length) with
      | some (text, left) =>
        if text.isEmpty then none
        else some (.tag (String.ofList handle) (String.ofList text), c.upTo left)
      | none => none
    else
      (readTagText? false fuel (c.rest.drop handle.length)).map fun (text, left) =>
        let suffix := handle.drop 1 ++ text
        let token : Token :=
          if suffix.isEmpty then .tag "" "!" else .tag "!" (String.ofList suffix)
        (token, c.upTo left)

end Names

section Directives

/-- Read a number of at most nine digits. -/
def readDigits? (cs : List Char) : Option (Nat × List Char) :=
  let digits := cs.takeWhile Char.isDigit
  if digits.isEmpty || 9 < digits.length then none
  else some (Binary64.digitsValue digits, cs.drop digits.length)

/-- Read the version that a document asks for. -/
def readVersion? (cs : List Char) : Option (Token × List Char) :=
  match readDigits? cs with
  | some (major, '.' :: rest) =>
    (readDigits? rest).map fun (minor, rest) => (.version major minor, rest)
  | _ => none

/-- Read a handle and what it stands for. -/
def readHandle? (cs : List Char) : Option (Token × List Char) :=
  let handle := handleText cs
  let after := cs.drop handle.length
  let start := after.dropWhile isBlank
  if (handle == ['!'] || isWholeHandle handle) && after.head?.any isBlank then
    match readTagText? true (start.length + 1) start with
    | some (text, rest) =>
      if !text.isEmpty && gapNext rest then
        some (.handle (String.ofList handle) (String.ofList text), rest)
      else none
    | none => none
  else none

/-- Read a directive after its percent sign, with the rest of its line. -/
def readDirective? (c : Cursor) : Option (Token × Cursor) :=
  let name := c.rest.takeWhile isWordChar
  let after := c.skip name.length
  let body := after.rest.dropWhile isBlank
  let found :=
    if name == "YAML".toList then readVersion? body
    else if name == "TAG".toList then readHandle? body
    else none
  match found with
  | some (token, rest) =>
    let c := ((c.upTo rest).skipWhile isBlank).skipComment
    if gapNext after.rest && (c.rest.isEmpty || c.nextIs isBreak) then some (token, c.skipBreak)
    else none
  | none => none

end Directives

section Scanning

/-- A token that becomes a key when a colon follows it on its line: its number, its
place, and whether nothing but a key may stand there. -/
structure Candidate where
  number : Nat
  place : Cursor
  required : Bool

/-- How far a document has been cut: the tokens, last first, and their count, the columns
of the open block collections, innermost first, and for every level of flow collections
the token that may become a key, innermost first. No token has as many characters as
there is `room` for. -/
structure Scanner where
  room : Nat
  cursor : Cursor
  back : List Token := []
  count : Nat := 0
  columns : List Nat := []
  candidates : List (Option Candidate) := [none]
  keyAllowed : Bool := true

namespace Scanner

/-- Whether the scanner is within a flow collection. -/
def inFlow (s : Scanner) : Bool :=
  1 < s.candidates.length

/-- Add a token. -/
def emit (token : Token) (s : Scanner) : Scanner :=
  { s with back := token :: s.back, count := s.count + 1 }

/-- Put a token in front of the one with a number. -/
def insertAt (number : Nat) (token : Token) (s : Scanner) : Scanner :=
  let later := s.count - number
  { s with back := s.back.take later ++ token :: s.back.drop later, count := s.count + 1 }

/-- The token that may become a key here. -/
def candidate? (s : Scanner) : Option Candidate :=
  s.candidates.head?.join

/-- Set the token that may become a key here. -/
def setCandidate (candidate : Option Candidate) (s : Scanner) : Scanner :=
  { s with candidates := candidate :: s.candidates.tail }

/-- Give up the token that may become a key here, unless a key is required. -/
def forget? (s : Scanner) : Option Scanner :=
  if s.candidate?.any Candidate.required then none else some (s.setCandidate none)

/-- Remember that the next token may become a key. -/
def remember? (s : Scanner) : Option Scanner :=
  if s.keyAllowed then
    let required := !s.inFlow && s.columns.head? == some s.cursor.column
    s.forget?.map (·.setCandidate (some ⟨s.count, s.cursor, required⟩))
  else some s

/-- Whether a token can no longer become a key: it began on another line or too far
back. -/
def isStale (c : Cursor) (candidate : Candidate) : Bool :=
  candidate.place.line < c.line || candidate.place.index + 1024 < c.index

/-- Give up the tokens that can no longer become keys. -/
def expire? (s : Scanner) : Option Scanner :=
  let stale (candidate : Candidate) : Bool := isStale s.cursor candidate
  if s.candidates.any fun held => held.any fun c => stale c && c.required then none
  else some { s with candidates := s.candidates.map fun held => held.filter fun c => !stale c }

/-- Begin a block collection in a column that is further to the right than the one
around it. -/
def openAt (column : Nat) (number : Option Nat) (token : Token) (s : Scanner) : Scanner :=
  if s.inFlow || !s.columns.head?.all (· < column) then s
  else
    let s := { s with columns := column :: s.columns }
    match number with
    | some number => s.insertAt number token
    | none => s.emit token

/-- End the block collections that do not stay. -/
def close (stays : Nat → Bool) (s : Scanner) : Scanner :=
  if s.inFlow then s
  else
    let gone := s.columns.takeWhile fun column => !stays column
    gone.foldl (fun s _ => s.emit .blockEnd) { s with columns := s.columns.drop gone.length }

/-- Move on. -/
def move (cursor : Cursor) (s : Scanner) : Scanner :=
  { s with cursor }

/-- Whether tokens that become keys may come next. -/
def allow (keyAllowed : Bool) (s : Scanner) : Scanner :=
  { s with keyAllowed }

/-- Go to the next token, past blanks, comments and breaks. A tab is no blank where a
key may begin a line. -/
def toToken : Nat → Scanner → Scanner
  | 0, s => s
  | fuel + 1, s =>
    let start :=
      if s.cursor.column == 0 && s.cursor.nextIs (·.toNat == 0xFEFF) then s.cursor.skip 1
      else s.cursor
    let tabs := s.inFlow || !s.keyAllowed
    let c := (start.skipWhile fun ch => ch == ' ' || (tabs && ch == '\t')).skipComment
    if c.nextIs isBreak then toToken fuel ((s.move c.skipBreak).allow (s.keyAllowed || !s.inFlow))
    else s.move c

/-- Take a mark of some characters that begins or ends a document. -/
def documentMark? (token : Token) (s : Scanner) : Option Scanner :=
  (s.close fun _ => false).forget?.map fun s =>
    ((s.allow false).move (s.cursor.skip 3)).emit token

/-- Take a directive. -/
def directive? (s : Scanner) : Option Scanner :=
  (s.close fun _ => false).forget?.bind fun s =>
    (readDirective? (s.cursor.skip 1)).map fun (token, c) => ((s.allow false).move c).emit token

/-- Take the bracket that begins a flow collection. -/
def flowStart? (token : Token) (s : Scanner) : Option Scanner :=
  s.remember?.map fun s =>
    ({ s with candidates := none :: s.candidates, keyAllowed := true }.move (s.cursor.skip 1)).emit
      token

/-- Take the bracket that ends a flow collection. -/
def flowEnd? (token : Token) (s : Scanner) : Option Scanner :=
  s.forget?.map fun s =>
    let candidates := if s.inFlow then s.candidates.tail else s.candidates
    ({ s with candidates, keyAllowed := false }.move (s.cursor.skip 1)).emit token

/-- Take the comma between the entries of a flow collection. -/
def flowEntry? (s : Scanner) : Option Scanner :=
  s.forget?.map fun s => ((s.allow true).move (s.cursor.skip 1)).emit .flowEntry

/-- Take the hyphen before a list entry. -/
def blockEntry? (s : Scanner) : Option Scanner :=
  if !s.inFlow && !s.keyAllowed then none
  else
    (s.openAt s.cursor.column none .blockList).forget?.map fun s =>
      ((s.allow true).move (s.cursor.skip 1)).emit .blockEntry

/-- Take the question mark before a key. -/
def key? (s : Scanner) : Option Scanner :=
  if !s.inFlow && !s.keyAllowed then none
  else
    (s.openAt s.cursor.column none .blockMapping).forget?.map fun s =>
      ((s.allow !s.inFlow).move (s.cursor.skip 1)).emit .key

/-- Take the colon before a value; the token that may become a key becomes one. -/
def value? (s : Scanner) : Option Scanner :=
  let after (s : Scanner) : Scanner := (s.move (s.cursor.skip 1)).emit .value
  match s.candidate? with
  | some candidate =>
    let s := s.insertAt candidate.number .key
    let s := s.openAt candidate.place.column (some candidate.number) .blockMapping
    some (after ((s.setCandidate none).allow false))
  | none =>
    if s.inFlow then some (after (s.allow false))
    else if !s.keyAllowed then none
    else some (after ((s.openAt s.cursor.column none .blockMapping).allow true))

/-- Take an anchor or alias. -/
def name? (token : String → Token) (s : Scanner) : Option Scanner :=
  s.remember?.bind fun s =>
    (readName? (s.cursor.skip 1)).map fun (name, c) => ((s.allow false).move c).emit (token name)

/-- Take a tag. -/
def tag? (s : Scanner) : Option Scanner :=
  s.remember?.bind fun s =>
    match readTag? s.cursor with
    | some (token, c) =>
      if gapNext c.rest || (s.inFlow && c.nextIs (· == ',')) then
        some (((s.allow false).move c).emit token)
      else none
    | none => none

/-- Take a block scalar. -/
def block? (literal : Bool) (s : Scanner) : Option Scanner :=
  let base := match s.columns.head? with
    | some column => column + 1
    | none => 0
  s.forget?.bind fun s =>
    (readBlock? literal base s.room (s.cursor.skip 1)).map fun (text, c) =>
      let style : Style := if literal then .literal else .folded
      ((s.allow true).move c).emit (.scalar style (String.ofList text))

/-- Take a quoted scalar. -/
def quoted? (single : Bool) (s : Scanner) : Option Scanner :=
  s.remember?.bind fun s =>
    (readQuoted? single s.room [] (s.cursor.skip 1)).map fun (text, c) =>
      ((s.allow false).move c).emit (.scalar .quoted (String.ofList text.reverse))

/-- Take a plain scalar; after one that ends with a line a key may come. -/
def plain? (s : Scanner) : Option Scanner :=
  let least := match s.columns.head? with
    | some column => column + 1
    | none => 0
  s.remember?.bind fun s =>
    (readPlain? s.inFlow least s.room [] {} s.cursor).map fun (text, broken, c) =>
      ((s.allow broken).move c).emit (.scalar .plain (String.ofList text.reverse))

/-- Whether a plain scalar can begin with the characters. -/
def startsPlain (flow : Bool) : List Char → Bool
  | [] => false
  | c :: rest =>
    if c == '-' then !rest.head?.any isBlank
    else if c == '?' || c == ':' then !flow && !gapNext rest
    else !(isGap c || isFlowMark c || "#&*!|>'\"%@\x60".toList.contains c)

/-- Take the token that begins with a character. -/
def take? (s : Scanner) (c : Char) (after : List Char) : Option Scanner :=
  let mark := s.inFlow || gapNext after
  if s.cursor.column == 0 && c == '%' then s.directive?
  else if s.cursor.atDocumentStart then s.documentMark? .documentStart
  else if s.cursor.atDocumentEnd then s.documentMark? .documentEnd
  else if c == '[' then s.flowStart? .flowList
  else if c.toNat == 0x7B then s.flowStart? .flowMapping
  else if c == ']' then s.flowEnd? .flowListEnd
  else if c.toNat == 0x7D then s.flowEnd? .flowMappingEnd
  else if c == ',' then s.flowEntry?
  else if c == '-' && gapNext after then s.blockEntry?
  else if c == '?' && mark then s.key?
  else if c == ':' && mark then s.value?
  else if c == '*' then s.name? Token.alias
  else if c == '&' then s.name? Token.anchor
  else if c == '!' then s.tag?
  else if c == '|' && !s.inFlow then s.block? true
  else if c == '>' && !s.inFlow then s.block? false
  else if c == '\'' then s.quoted? true
  else if c == '"' then s.quoted? false
  else if startsPlain s.inFlow (c :: after) then s.plain?
  else none

/-- The tokens from here on. -/
def run? : Nat → Scanner → Option (List Token)
  | 0, _ => none
  | fuel + 1, s =>
    match (s.toToken s.room).expire? with
    | none => none
    | some s =>
      match s.cursor.rest with
      | [] => (s.close fun _ => false).forget?.map fun s => s.back.reverse
      | c :: after =>
        let column := s.cursor.column
        match (s.close fun other => other ≤ column).take? c after with
        | some s => run? fuel s
        | none => none

end Scanner

/-- The tokens of a text. -/
def tokens? (cs : List Char) : Option (List Token) :=
  let room := cs.length + 2
  if cs.all isAllowed then Scanner.run? room { room, cursor := { rest := cs } } else none

end Scanning

end VmLaunch.Yaml
