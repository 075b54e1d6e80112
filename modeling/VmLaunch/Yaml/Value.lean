import VmLaunch.Source.Basic
import VmLaunch.Text.Pieces
import VmLaunch.Yaml.Basic

/-!
# What YAML scalars say

What a scalar means depends on who asks: every scalar is a text, but only a plain one can
be a truth value, a number or absent, unless its tag says what it is. A plain scalar
without characters also counts as an empty list and an empty mapping. A tag of the
document's own names an alternative and fits nothing else.
-/

namespace VmLaunch.Yaml

section Plain

/-- Whether a plain scalar says that a value is absent. -/
def isNullWord (s : String) : Bool :=
  ["~", "null", "Null", "NULL"].contains s

/-- Whether a plain scalar is absent. -/
def isAbsent (s : String) : Bool :=
  s == "" || isNullWord s

/-- The truth value of a plain scalar. -/
def flagOf? (s : String) : Option Bool :=
  if ["true", "True", "TRUE"].contains s then some true
  else if ["false", "False", "FALSE"].contains s then some false
  else none

/-- The number that digits in a base stand for. -/
def natIn? (base : Nat) (cs : List Char) : Option Nat :=
  if cs.isEmpty then none
  else
    cs.foldlM (fun n c =>
      (Written.hexValue? c).bind fun d => if d < base then some (base * n + d) else none) 0

/-- Digits after a zero are a text and no number. -/
def isPadded : List Char → Bool
  | '0' :: c :: rest => (c :: rest).all Binary64.isDigit
  | _ => false

/-- The number of unsigned characters, with an optional mark of the base. -/
def magnitude? (cs : List Char) : Option Nat :=
  match cs with
  | '0' :: 'x' :: rest => natIn? 16 rest
  | '0' :: 'o' :: rest => natIn? 8 rest
  | '0' :: 'b' :: rest => natIn? 2 rest
  | _ => if isPadded cs then none else natIn? 10 cs

/-- The natural number of a plain scalar. -/
def natOf? (s : String) : Option Nat :=
  match s.toList with
  | '+' :: rest => magnitude? rest
  | cs => magnitude? cs

/-- The integer of a plain scalar with a minus sign. -/
def negativeOf? (s : String) : Option Int :=
  match s.toList with
  | '-' :: rest => (magnitude? rest).map fun n => - Int.ofNat n
  | _ => none

/-- The integer of a plain scalar. -/
def intOf? (s : String) : Option Int :=
  match negativeOf? s with
  | some n => some n
  | none => (natOf? s).map Int.ofNat

/-- The spellings of infinity. -/
def infinities : List String :=
  [".inf", ".Inf", ".INF"]

/-- The double of a plain scalar. -/
def floatOf? (s : String) : Option Binary64 :=
  let unsigned :=
    match s.toList with
    | '+' :: rest => String.ofList rest
    | _ => s
  if infinities.contains unsigned then Binary64.parse? "inf"
  else if (infinities.map ("-" ++ ·)).contains s then Binary64.parse? "-inf"
  else if [".nan", ".NaN", ".NAN"].contains s then Binary64.parse? "nan"
  else if Text.startsWith s "+" &&
      (Text.startsWith unsigned "+" || Text.startsWith unsigned "-") then none
  else (Binary64.parse? unsigned).filter Binary64.isFinite

/-- The digits of a plain scalar without its sign. -/
def unsigned (s : String) : List Char :=
  match s.toList with
  | '+' :: rest => rest
  | '-' :: rest => rest
  | cs => cs

/-- What a plain scalar says when it is a whole number: its value within sixty-four bits,
nothing readable beyond that, and no whole number beyond one hundred and twenty-eight. -/
def wholeOf? (s : String) : Option (Option Loose) :=
  match natOf? s, negativeOf? s with
  | some n, _ =>
    if n < 0x10000000000000000 then some (some (.natural n))
    else if n < 0x100000000000000000000000000000000 then some none
    else none
  | none, some n =>
    if -0x8000000000000000 ≤ n then some (some (.signed n))
    else if -0x80000000000000000000000000000000 ≤ n then some none
    else none
  | none, none => none

/-- What a plain scalar says when nothing in particular is expected. -/
def plainLoose? (s : String) : Option Loose :=
  if isAbsent s then some .absent
  else
    match flagOf? s, wholeOf? s with
    | some flag, _ => some (.flag flag)
    | none, some whole => whole
    | none, none =>
      if isPadded (unsigned s) then some (.text s)
      else some ((floatOf? s).elim (.text s) .double)

end Plain

section Tags

/-- A tag of the standard kinds. -/
def coreTag (name : String) : String :=
  "tag:yaml.org,2002:" ++ name

/-- What a tag of the document's own names. -/
def ownTag? (tag : Option String) : Option String :=
  match tag with
  | some tag =>
    match tag.toList with
    | '!' :: rest => some (if rest.isEmpty then tag else String.ofList rest)
    | _ => none
  | none => none

/-- What a scalar of a standard kind says. -/
def Scalar.tagged? (s : Scalar) (tag : String) : Option Loose :=
  if tag == coreTag "bool" then (flagOf? s.text).map Loose.flag
  else if tag == coreTag "int" then (wholeOf? s.text).join
  else if tag == coreTag "float" then (floatOf? s.text).map Loose.double
  else if tag == coreTag "null" then if isNullWord s.text then some .absent else none
  else some (.text s.text)

/-- What a scalar says when nothing in particular is expected. -/
def Scalar.loose? (s : Scalar) : Option Loose :=
  match ownTag? s.tag, s.tag with
  | some _, _ => none
  | none, some tag => s.tagged? tag
  | none, none => if s.style == .plain then plainLoose? s.text else some (.text s.text)

/-- The text of a scalar that may be of a standard kind: a plain one, or a literal one
with the tag of that kind. -/
def Scalar.literal? (kind : String) (s : Scalar) : Option String :=
  if s.style == .plain || (s.style == .literal && s.tag == some (coreTag kind)) then some s.text
  else none

/-- Whether a plain scalar is empty. -/
def Scalar.isEmpty (s : Scalar) : Bool :=
  s.style == .plain && s.text == ""

/-- Whether a scalar is absent; nothing when its tag says so but not its text. -/
def Scalar.absent? (s : Scalar) : Option Bool :=
  if s.style != .plain then some false
  else
    match s.tag with
    | none => some (isAbsent s.text)
    | some tag =>
      if tag == coreTag "null" then if isNullWord s.text then some true else none else some false

/-- Which alternative a scalar names: by its text, or by its own tag over nothing. -/
def Scalar.choice? (s : Scalar) : Option String :=
  match ownTag? s.tag with
  | some word => if s.style == .plain && isAbsent s.text then some word else none
  | none => some s.text

end Tags

section Trees

mutual

/-- The value of a tree of which nothing in particular is expected. -/
def loose? : Yaml → Option Loose
  | .void => some .absent
  | .beyond => none
  | .scalar s => s.loose?
  | .list tag items => if (ownTag? tag).isSome then none else (looseItems? items).map Loose.list
  | .mapping tag members =>
    if (ownTag? tag).isSome then none else (looseMembers? members).map Loose.mapping

/-- The values of the items. -/
def looseItems? : List Yaml → Option (List Loose)
  | [] => some []
  | tree :: rest =>
    match loose? tree, looseItems? rest with
    | some value, some values => some (value :: values)
    | _, _ => none

/-- The values of the members. -/
def looseMembers? : List (Yaml × Yaml) → Option (List (Loose × Loose))
  | [] => some []
  | (key, tree) :: rest =>
    match loose? key, loose? tree, looseMembers? rest with
    | some key, some value, some values => some ((key, value) :: values)
    | _, _, _ => none

end

/-- The text of a scalar. -/
def text? : Yaml → Option String
  | .scalar s => some s.text
  | _ => none

/-- What a scalar of a standard kind says to a reader. -/
def literal? {α : Type} (kind : String) (read : String → Option α) : Yaml → Option α
  | .scalar s => (s.literal? kind).bind read
  | _ => none

/-- The members of a mapping whose keys are scalars. -/
def members? : Yaml → Option (List (String × Yaml))
  | .mapping _ members => rekey? text? members
  | .scalar s => if s.isEmpty then some [] else none
  | .void => some []
  | _ => none

instance : Source Yaml where
  option?
    | .void => some none
    | .scalar s => s.absent?.map fun absent => if absent then none else some (.scalar s)
    | tree => some (some tree)
  text? := text?
  flag? := literal? "bool" flagOf?
  int? := literal? "int" intOf?
  nat? := literal? "int" natOf?
  choice?
    | .scalar s => s.choice?.map FieldKey.name
    | _ => none
  items?
    | .list _ items => some items
    | .scalar s => if s.isEmpty then some [] else none
    | .void => some []
    | _ => none
  members? := members?
  fields? tree := (members? tree).map namedFields
  collection?
    | .list tag items => if (ownTag? tag).isSome then none else some (.list items)
    | .mapping tag members =>
      if (ownTag? tag).isSome then none
      else (rekey? loose? members).map Collection.mapping
    | _ => none
  loose? := loose?

end Trees

end VmLaunch.Yaml
