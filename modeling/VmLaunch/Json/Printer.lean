import VmLaunch.Decimal.Text
import VmLaunch.Json.Basic

/-!
# JSON text

`render` writes a value on one line without spaces; `pretty` writes one item or
member a line, two spaces for each level. Quotes, backslashes and the controls
below the space are escaped, everything else stands for itself. A number that
is not finite has no JSON text and is written `null`.
-/

namespace VmLaunch.Json

/-- One hexadecimal digit, lower case. -/
def hexDigit (n : Nat) : Char :=
  Nat.digitChar (n % 16)

/-- The written form of one character of a string. -/
def escapeChar (c : Char) : List Char :=
  if c == '"' then ['\\', '"']
  else if c == '\\' then ['\\', '\\']
  else if c == '\n' then ['\\', 'n']
  else if c == '\r' then ['\\', 'r']
  else if c == '\t' then ['\\', 't']
  else if c.toNat == 8 then ['\\', 'b']
  else if c.toNat == 12 then ['\\', 'f']
  else if c.toNat < 32 then ['\\', 'u', '0', '0', hexDigit (c.toNat / 16), hexDigit c.toNat]
  else [c]

/-- A string between quotes. -/
def quote (s : String) : String :=
  String.ofList ('"' :: s.toList.flatMap escapeChar ++ ['"'])

/-- The text of a number. -/
def numberText : JsonNumber → String
  | .int value => toString value
  | .float value => if value.isFinite then value.toText else "null"

/-- The text of a value that holds no others. -/
def leafText : Json → String
  | .bool true => "true"
  | .bool false => "false"
  | .num value => numberText value
  | .str value => quote value
  | _ => "null"

mutual

/-- The value on one line. -/
def render : Json → String
  | .arr items => "[" ++ renderItems items ++ "]"
  | .obj members => "\x7b" ++ renderMembers members ++ "\x7d"
  | leaf => leafText leaf

/-- The items of a list with commas between them. -/
def renderItems : List Json → String
  | [] => ""
  | [value] => render value
  | value :: rest => render value ++ "," ++ renderItems rest

/-- The members of an object with commas between them. -/
def renderMembers : List (String × Json) → String
  | [] => ""
  | [(key, value)] => quote key ++ ":" ++ render value
  | (key, value) :: rest => quote key ++ ":" ++ render value ++ "," ++ renderMembers rest

end

/-- A line break and the indentation of a level. -/
def lineAt (level : Nat) : String :=
  String.ofList ('\n' :: List.replicate (2 * level) ' ')

mutual

/-- The value with its items and members on lines of their own, within `level` others. -/
def prettyAt (level : Nat) : Json → String
  | .arr [] => "[]"
  | .arr items => "[" ++ prettyItems (level + 1) items ++ lineAt level ++ "]"
  | .obj [] => "\x7b\x7d"
  | .obj members => "\x7b" ++ prettyMembers (level + 1) members ++ lineAt level ++ "\x7d"
  | leaf => leafText leaf

/-- The items of a list, each on a line of its own. -/
def prettyItems (level : Nat) : List Json → String
  | [] => ""
  | [value] => lineAt level ++ prettyAt level value
  | value :: rest => lineAt level ++ prettyAt level value ++ "," ++ prettyItems level rest

/-- The members of an object, each on a line of its own. -/
def prettyMembers (level : Nat) : List (String × Json) → String
  | [] => ""
  | [(key, value)] => lineAt level ++ quote key ++ ": " ++ prettyAt level value
  | (key, value) :: rest =>
    lineAt level ++ quote key ++ ": " ++ prettyAt level value ++ "," ++ prettyMembers level rest

end

/-- The value over several lines, without a final line break. -/
def pretty (value : Json) : String :=
  prettyAt 0 value

end VmLaunch.Json
