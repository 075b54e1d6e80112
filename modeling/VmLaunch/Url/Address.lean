import VmLaunch.Decimal.Text
import VmLaunch.Json.Written
import VmLaunch.Text.Pieces

/-!
# IP addresses as text

An IPv4 address is four decimal octets without leading zeros, an IPv6 address
eight groups of up to four hexadecimal digits. One run of zero groups may be left
out as a double colon, and the last two groups may be written as four octets.
-/

namespace VmLaunch.Address

/-- The value of a decimal octet. -/
def octet? (cs : List Char) : Option Nat :=
  match cs with
  | [] => none
  | ['0'] => some 0
  | first :: rest =>
    if first != '0' && (first :: rest).all Binary64.isDigit && rest.length ≤ 2 &&
        Binary64.digitsValue (first :: rest) ≤ 255 then
      some (Binary64.digitsValue (first :: rest))
    else none

/-- The octets of an IPv4 address. -/
def v4? (cs : List Char) : Option (List Nat) :=
  match (Text.splitOn '.' cs).mapM octet? with
  | some [a, b, c, d] => some [a, b, c, d]
  | _ => none

/-- The value of hexadecimal digits. -/
def hexValue? (cs : List Char) : Option Nat :=
  cs.foldlM (fun n c => (Written.hexValue? c).map fun d => 16 * n + d) 0

/-- The value of one group of hexadecimal digits. -/
def group? (cs : List Char) : Option Nat :=
  if cs.isEmpty || 4 < cs.length then none else hexValue? cs

/-- The groups that the pieces between colons stand for. Four octets stand for two
groups and may come last only. -/
def groups? : List (List Char) → Option (List Nat)
  | [] => some []
  | [last] =>
    match v4? last with
    | some [a, b, c, d] => some [256 * a + b, 256 * c + d]
    | _ => (group? last).map fun value => [value]
  | piece :: rest =>
    match group? piece, groups? rest with
    | some value, some values => some (value :: values)
    | _, _ => none

/-- The characters before and after the first double colon. -/
def cutDouble? : List Char → Option (List Char × List Char)
  | ':' :: ':' :: rest => some ([], rest)
  | c :: rest => (cutDouble? rest).map fun (before, after) => (c :: before, after)
  | [] => none

/-- The pieces between colons; none for an empty text. -/
def colonPieces (cs : List Char) : List (List Char) :=
  if cs.isEmpty then [] else Text.splitOn ':' cs

/-- The eight groups of an IPv6 address. -/
def v6? (cs : List Char) : Option (List Nat) :=
  match cutDouble? cs with
  | some (head, tail) =>
    match (colonPieces head).mapM group?, groups? (colonPieces tail) with
    | some h, some t =>
      if h.length + t.length ≤ 7 then
        some (h ++ List.replicate (8 - h.length - t.length) 0 ++ t)
      else none
    | _, _ => none
  | none =>
    match groups? (colonPieces cs) with
    | some groups => if groups.length == 8 then some groups else none
    | none => none

/-- Whether a text is an address. -/
def isLiteral (s : String) : Bool :=
  (v4? s.toList).isSome || (v6? s.toList).isSome

/-- The number of zeros at the head of a list. -/
def leadingZeros (groups : List Nat) : Nat :=
  (groups.takeWhile (· == 0)).length

/-- Where the longest run of zeros begins and how long it is; the first of several. -/
def longestZeros (offset : Nat) : List Nat → Nat × Nat
  | [] => (offset, 0)
  | n :: rest =>
    let here := leadingZeros (n :: rest)
    let later := longestZeros (offset + 1) rest
    if later.2 ≤ here then (offset, here) else later

/-- A group in hexadecimal digits. -/
def groupText (n : Nat) : String :=
  String.ofList (Nat.toDigits 16 n)

/-- The shortest text of an IPv6 address: its longest run of at least two zero
groups becomes a double colon. -/
def v6Text (groups : List Nat) : String :=
  let (start, length) := longestZeros 0 groups
  let written (part : List Nat) : String := Text.join ":" (part.map groupText)
  if length < 2 then written groups
  else written (groups.take start) ++ "::" ++ written (groups.drop (start + length))

/-- The text of an IPv4 address. -/
def v4Text (value : Nat) : String :=
  Text.join "." ([24, 16, 8, 0].map fun shift => toString (value / Nat.pow 2 shift % 256))

end VmLaunch.Address
