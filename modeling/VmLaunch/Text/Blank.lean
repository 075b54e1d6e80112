/-!
# Blank text

A value typed by a person is compared and sent without the blanks around it.
A blank is a character with the Unicode `White_Space` property; `trim` removes
the blanks at both ends and `filled?` retains a value only when something is
left of it.
-/

namespace VmLaunch.Text

/-- The characters with the Unicode `White_Space` property. -/
def isBlank (c : Char) : Bool :=
  let n := c.toNat
  (0x09 ≤ n && n ≤ 0x0D) || n == 0x20 || n == 0x85 || n == 0xA0 || n == 0x1680 ||
    (0x2000 ≤ n && n ≤ 0x200A) || n == 0x2028 || n == 0x2029 || n == 0x202F ||
    n == 0x205F || n == 0x3000

/-- Drop the blanks at the end. -/
def trimEnd : List Char → List Char
  | [] => []
  | c :: rest =>
    match trimEnd rest with
    | [] => if isBlank c then [] else [c]
    | kept => c :: kept

/-- Drop the blanks at both ends. -/
def trimChars (cs : List Char) : List Char :=
  trimEnd (cs.dropWhile isBlank)

/-- Text without the blanks at either end. -/
def trim (s : String) : String :=
  String.ofList (trimChars s.toList)

/-- Whether nothing is left of a text once it is trimmed. -/
def blank (s : String) : Bool :=
  trim s == ""

/-- The trimmed text, when something is left of it. -/
def filled? (s : String) : Option String :=
  if blank s then none else some (trim s)

/-- The trimmed text of an optional value, when it is given and not blank. -/
def given? (value : Option String) : Option String :=
  value.bind filled?

/-- Every member trimmed, the blank ones left out. -/
def filledAll (values : List String) : List String :=
  values.filterMap filled?

end VmLaunch.Text
