import VmLaunch.Json.Written
import VmLaunch.Yaml.Cursor

/-!
# YAML scalars

A plain or quoted scalar may go on over several lines: a single break between them
stands for a space and further breaks for themselves, while the blanks around breaks do
not count. A block scalar has its own lines, further to the right than what it belongs
to; folded, its lines are joined in the same way.
-/

namespace VmLaunch.Yaml

section Gaps

/-- The blanks and breaks between two words of a scalar: the blanks before the first
break, that break, and the breaks after it. -/
structure Gap where
  blanks : List Char := []
  first : Option (List Char) := none
  others : List Char := []

/-- What a gap stands for. -/
def Gap.text (g : Gap) : List Char :=
  match g.first with
  | none => g.blanks
  | some ['\n'] => if g.others.isEmpty then [' '] else g.others
  | some first => first ++ g.others

/-- Read a gap. After a break, no tab may stand before the column `least`. -/
def readGap (least : Nat) : Nat → Gap → Cursor → Option (Gap × Cursor)
  | 0, _, _ => none
  | fuel + 1, g, c =>
    match c.rest with
    | [] => some (g, c)
    | ch :: _ =>
      if isBlank ch then
        match g.first with
        | none => readGap least fuel { g with blanks := g.blanks ++ [ch] } (c.skip 1)
        | some _ =>
          if ch == '\t' && c.column < least then none else readGap least fuel g (c.skip 1)
      else if isBreak ch then
        match g.first with
        | none => readGap least fuel { g with blanks := [], first := some c.breakText } c.skipBreak
        | some _ => readGap least fuel { g with others := g.others ++ c.breakText } c.skipBreak
      else some (g, c)

end Gaps

section Plain

/-- Whether a character delimits a flow collection or its entries. -/
def isFlowMark (c : Char) : Bool :=
  c == ',' || c == '[' || c == ']' || c.toNat == 0x7B || c.toNat == 0x7D

/-- The characters of a word of a plain scalar and those after it. A colon before a gap
ends it, and within a flow collection a mark does; there a colon before a mark is an
error. -/
def plainWord? (flow : Bool) : List Char → Option (List Char × List Char)
  | [] => some ([], [])
  | c :: rest =>
    if isGap c then some ([], c :: rest)
    else if flow && c == ':' && rest.head?.any fun d => isFlowMark d || d == '?' then none
    else if (c == ':' && gapNext rest) || (flow && isFlowMark c) then some ([], c :: rest)
    else (plainWord? flow rest).map fun (word, left) => (c :: word, left)

/-- Read the words of a plain scalar: its characters, last first, and whether the last gap
was over a line break. Outside flow collections it ends before the column `least`. -/
def readPlain? (flow : Bool) (least : Nat) :
    Nat → List Char → Gap → Cursor → Option (List Char × Bool × Cursor)
  | 0, _, _, _ => none
  | fuel + 1, taken, pending, c =>
    if c.atDocumentMark || c.nextIs (· == '#') then some (taken, pending.first.isSome, c)
    else
      match plainWord? flow c.rest with
      | none => none
      | some (word, left) =>
        let after := c.skip word.length
        let ended : Bool := word.isEmpty || !gapNext left || left.isEmpty
        let taken := if word.isEmpty then taken else word.reverse ++ (pending.text.reverse ++ taken)
        let pending := if word.isEmpty then pending else {}
        if ended then some (taken, pending.first.isSome, after)
        else
          match readGap least fuel {} after with
          | none => none
          | some (gap, next) =>
            if !flow && next.column < least then some (taken, gap.first.isSome, next)
            else readPlain? flow least fuel taken gap next

end Plain

section Quoted

/-- The character that a letter stands for after a backslash. -/
def escapes : List (Char × Nat) :=
  [('0', 0), ('a', 7), ('b', 8), ('t', 9), ('\t', 9), ('n', 10), ('v', 11), ('f', 12), ('r', 13),
    ('e', 27), (' ', 32), ('"', 34), ('/', 47), ('\\', 92), ('N', 0x85), ('_', 0xA0), ('L', 0x2028),
    ('P', 0x2029)]

/-- The number of hexadecimal digits after a letter that announces a code point. -/
def codeLength? (c : Char) : Option Nat :=
  if c == 'x' then some 2 else if c == 'u' then some 4 else if c == 'U' then some 8 else none

/-- The value of hexadecimal digits. -/
def hexValue? (digits : List Char) : Option Nat :=
  digits.foldlM (fun n c => (Written.hexValue? c).map fun d => 16 * n + d) 0

/-- The character of a code point in hexadecimal digits. -/
def codePoint? (digits : List Char) : Option Char :=
  (hexValue? digits).bind fun n =>
    let c := Char.ofNat n
    if c.toNat == n then some c else none

/-- The character of an escape, from the letter on, and how many characters it takes. -/
def escape? : List Char → Option (Char × Nat)
  | [] => none
  | c :: rest =>
    match escapes.lookup c, codeLength? c with
    | some n, _ => some (Char.ofNat n, 1)
    | none, some length =>
      if rest.length < length then none
      else (codePoint? (rest.take length)).map fun e => (e, 1 + length)
    | none, none => none

/-- Whether a backslash stands before a line break. -/
def escapesBreak : List Char → Bool
  | '\\' :: c :: _ => isBreak c
  | _ => false

/-- Read a word within quotes in front of the characters taken, last first: up to a gap,
the closing quote or an escaped break. -/
def quotedWord? (single : Bool) : Nat → List Char → Cursor → Option (List Char × Cursor)
  | 0, _, _ => none
  | fuel + 1, taken, c =>
    match c.rest with
    | [] => some (taken, c)
    | ch :: rest =>
      if isGap ch then some (taken, c)
      else if single then
        if ch == '\'' then
          if rest.head? == some '\'' then quotedWord? single fuel ('\'' :: taken) (c.skip 2)
          else some (taken, c)
        else quotedWord? single fuel (ch :: taken) (c.skip 1)
      else if ch == '"' || escapesBreak c.rest then some (taken, c)
      else if ch == '\\' then
        match escape? rest with
        | some (e, length) => quotedWord? single fuel (e :: taken) (c.skip (1 + length))
        | none => none
      else quotedWord? single fuel (ch :: taken) (c.skip 1)

/-- Read on to the closing quote; the characters come last first. -/
def readQuoted? (single : Bool) : Nat → List Char → Cursor → Option (List Char × Cursor)
  | 0, _, _ => none
  | fuel + 1, taken, c =>
    if c.atDocumentMark || c.rest.isEmpty then none
    else
      match quotedWord? single fuel taken c with
      | none => none
      | some (taken, after) =>
        if after.nextIs (· == if single then '\'' else '"') then some (taken, after.skip 1)
        else
          let escaped := escapesBreak after.rest
          let start : Gap := { first := if escaped then some [] else none }
          let next := if escaped then (after.skip 1).skipBreak else after
          match readGap 0 fuel start next with
          | none => none
          | some (gap, next) => readQuoted? single fuel (gap.text.reverse ++ taken) next

end Quoted

section Block

/-- What becomes of the breaks at the end of a block scalar. -/
inductive Chomp where
  | strip
  | clip
  | keep
  deriving DecidableEq, Inhabited

/-- What the first line of a block scalar says. -/
structure BlockHeader where
  chomp : Chomp := .clip
  indent : Option Nat := none

/-- The sign that decides about the breaks at the end. -/
def chomp? (c : Char) : Option Chomp :=
  if c == '+' then some .keep else if c == '-' then some .strip else none

/-- A digit that gives the indentation. -/
def indentDigit? (c : Char) : Option Nat :=
  if c.isDigit then some (c.toNat - 48) else none

/-- Read the signs after the mark of a block scalar: how many characters they take and
what they say. -/
def BlockHeader.read? : List Char → Option (Nat × BlockHeader)
  | [] => some (0, {})
  | c :: rest =>
    let second := rest.head?
    let (count, header) : Nat × BlockHeader :=
      match chomp? c, indentDigit? c with
      | some chomp, _ =>
        match second.bind indentDigit? with
        | some indent => (2, { chomp, indent := some indent })
        | none => (1, { chomp })
      | none, some indent =>
        match second.bind chomp? with
        | some chomp => (2, { chomp, indent := some indent })
        | none => (1, { indent := some indent })
      | none, none => (0, {})
    if header.indent == some 0 then none else some (count, header)

/-- Read empty lines of a block scalar: the rightmost column that was reached, the
breaks, and the place at which a line with content begins. Where the indentation is
still open, `indent` is zero. -/
def blockBreaks? (indent : Nat) : Nat → Nat → List Char → Cursor → Option (Nat × List Char × Cursor)
  | 0, _, _, _ => none
  | fuel + 1, widest, taken, c =>
    let spaces := (c.rest.takeWhile (· == ' ')).length
    let c := c.skip (if indent == 0 then spaces else min spaces (indent - c.column))
    let widest := max widest c.column
    if (indent == 0 || c.column < indent) && c.nextIs (· == '\t') then none
    else if c.nextIs isBreak then
      blockBreaks? indent fuel widest (taken ++ c.breakText) c.skipBreak
    else some (widest, taken, c)

/-- The lines of a block scalar that have been read: the characters, last first, the
break after the last line and the breaks after that, and whether the last line begins
with a blank. -/
structure BlockLines where
  taken : List Char := []
  last : List Char := []
  others : List Char := []
  blank : Bool := false

/-- Take one more line. Folded, a break between two lines that begin with no blank
stands for a space, or for nothing when others follow it. -/
def BlockLines.add (literal : Bool) (b : BlockLines) (line last : List Char) : BlockLines :=
  let blank := line.head?.any isBlank
  let folds := !literal && b.last == ['\n'] && !b.blank && !blank
  let joint := if folds then (if b.others.isEmpty then [' '] else []) else b.last
  ⟨line.reverse ++ (b.others.reverse ++ (joint.reverse ++ b.taken)), last, [], blank⟩

/-- The text of the lines. -/
def BlockLines.text (chomp : Chomp) (b : BlockLines) : List Char :=
  match chomp with
  | .strip => b.taken.reverse
  | .clip => b.taken.reverse ++ b.last
  | .keep => b.taken.reverse ++ b.last ++ b.others

/-- Read the lines of a block scalar. -/
def readLines? (literal : Bool) (indent : Nat) :
    Nat → BlockLines → Cursor → Option (BlockLines × Cursor)
  | 0, _, _ => none
  | fuel + 1, b, c =>
    if c.column == indent && !c.rest.isEmpty then
      let line := c.rest.takeWhile fun ch => !isBreak ch
      let after := c.skip line.length
      match blockBreaks? indent fuel 0 [] after.skipBreak with
      | none => none
      | some (_, others, next) =>
        readLines? literal indent fuel
          { b.add literal line after.breakText with others := others } next
    else some (b, c)

/-- Read a block scalar after its mark. What it belongs to begins `base` columns from
the left, counted from one. -/
def readBlock? (literal : Bool) (base fuel : Nat) (c : Cursor) : Option (List Char × Cursor) :=
  match BlockHeader.read? c.rest with
  | none => none
  | some (count, header) =>
    let c := ((c.skip count).skipWhile isBlank).skipComment
    if !(c.rest.isEmpty || c.nextIs isBreak) then none
    else
      let c := c.skipBreak
      let given := match header.indent with
        | some n => base - 1 + n
        | none => 0
      match blockBreaks? given fuel 0 [] c with
      | none => none
      | some (widest, breaks, c) =>
        let indent := if given == 0 then max widest (max base 1) else given
        (readLines? literal indent fuel { others := breaks } c).map fun (b, c) =>
          (b.text header.chomp, c)

end Block

end VmLaunch.Yaml
