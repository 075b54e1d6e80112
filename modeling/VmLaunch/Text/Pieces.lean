/-!
# Cutting text into pieces

Lists and paths are written with one separating character. `splitOn` yields
every piece between separators, `cut?` the parts on either side of the first
separator, and `lastPiece` what follows the last one.
-/

namespace VmLaunch.Text

/-- The pieces between the separators; one more piece than there are separators. -/
def splitOn (sep : Char) : List Char → List (List Char)
  | [] => [[]]
  | c :: rest =>
    if c = sep then [] :: splitOn sep rest
    else
      match splitOn sep rest with
      | [] => [[c]]
      | piece :: pieces => (c :: piece) :: pieces

/-- The pieces of a text between its separators. -/
def pieces (sep : Char) (s : String) : List String :=
  (splitOn sep s.toList).map String.ofList

/-- The characters before and after the first separator, when there is one. -/
def cutChars? (sep : Char) : List Char → Option (List Char × List Char)
  | [] => none
  | c :: rest =>
    if c = sep then some ([], rest)
    else (cutChars? sep rest).map fun (before, after) => (c :: before, after)

/-- The text before and after the first separator, when there is one. -/
def cut? (sep : Char) (s : String) : Option (String × String) :=
  (cutChars? sep s.toList).map fun (before, after) => (String.ofList before, String.ofList after)

/-- The characters before and after the last separator, when there is one. -/
def cutLastChars? (sep : Char) : List Char → Option (List Char × List Char)
  | [] => none
  | c :: rest =>
    match cutLastChars? sep rest with
    | some (before, after) => some (c :: before, after)
    | none => if c = sep then some ([], rest) else none

/-- The text before and after the last separator, when there is one. -/
def cutLast? (sep : Char) (s : String) : Option (String × String) :=
  (cutLastChars? sep s.toList).map fun (before, after) =>
    (String.ofList before, String.ofList after)

/-- What follows the last separator; the whole text when there is none. -/
def lastPiece (sep : Char) (s : String) : String :=
  match cutLast? sep s with
  | some (_, after) => after
  | none => s

/-- The lines of a text: pieces between line feeds, each without the carriage
return that ends it, and no empty piece after a final line feed. -/
def lines (s : String) : List String :=
  let all := splitOn '\n' s.toList
  let kept := if all.getLast? == some [] then all.dropLast else all
  kept.map fun piece =>
    String.ofList (if piece.getLast? == some '\r' then piece.dropLast else piece)

/-- Whether `needle` stands somewhere within the characters. -/
def occursIn (needle : List Char) : List Char → Bool
  | [] => needle.isEmpty
  | c :: rest => needle.isPrefixOf (c :: rest) || occursIn needle rest

/-- Whether a text contains another. -/
def contains (s needle : String) : Bool :=
  occursIn needle.toList s.toList

/-- Whether a text contains a character. -/
def hasChar (s : String) (c : Char) : Bool :=
  s.toList.contains c

/-- The rest of a text after the given beginning, when it begins so. -/
def dropStart? (start s : String) : Option String :=
  if start.toList.isPrefixOf s.toList then
    some (String.ofList (s.toList.drop start.toList.length))
  else none

/-- Whether a text begins with another. -/
def startsWith (s start : String) : Bool :=
  start.toList.isPrefixOf s.toList

/-- The texts one after the other with `sep` between neighbours. -/
def join (sep : String) : List String → String
  | [] => ""
  | [s] => s
  | s :: rest => s ++ sep ++ join sep rest

end VmLaunch.Text
