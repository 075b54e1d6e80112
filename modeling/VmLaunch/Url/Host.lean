import VmLaunch.Domain.Name
import VmLaunch.Text.Percent
import VmLaunch.Url.Address

/-!
# Hosts

A host is an IPv6 address in brackets, an IPv4 address or a name. Where the scheme
knows names, a name is unescaped, brought to lower case and written in ASCII, and a
name whose last label is a number must be an IPv4 address, which may be written in
octal or hexadecimal and with fewer than four parts. Elsewhere a host is any text
without the characters that delimit one.
-/

namespace VmLaunch.Url.Host

/-- Whether a character ends or divides a host wherever it occurs. -/
def isDelimiter (c : Char) : Bool :=
  c.toNat == 0 || " \t\n\r#/:<>?@[\\]^|".toList.contains c

/-- The base of a number and its digits. -/
def radix : List Char → Nat × List Char
  | '0' :: 'x' :: rest => (16, rest)
  | '0' :: 'X' :: rest => (16, rest)
  | '0' :: c :: rest => (8, c :: rest)
  | cs => (10, cs)

/-- The value of one part of an IPv4 address; no digits after the mark of a base
count as zero. -/
def number? (part : List Char) : Option Nat :=
  if part.isEmpty then none
  else
    let (base, digits) := radix part
    digits.foldlM (fun n c =>
      (Written.hexValue? c).bind fun d => if d < base then some (base * n + d) else none) 0

/-- The parts of a name; a final dot adds none. -/
def labels (name : String) : List (List Char) :=
  let all := Text.splitOn '.' name.toList
  if 1 < all.length && all.getLast? == some [] then all.dropLast else all

/-- Whether the last label of a name is a number. -/
def endsInNumber (name : String) : Bool :=
  match (labels name).getLast? with
  | some last => (!last.isEmpty && last.all Binary64.isDigit) || (number? last).isSome
  | none => false

/-- The value of parts, of which the last takes up all the octets that are left. -/
def addressOf? (parts : List Nat) : Option Nat :=
  match parts.getLast? with
  | none => none
  | some last =>
    let front := parts.dropLast
    if 3 < front.length || front.any (255 < ·) || Nat.pow 256 (4 - front.length) ≤ last then none
    else some (front.foldl (fun n part => 256 * n + part) 0 * Nat.pow 256 (4 - front.length) + last)

/-- The text of a host between brackets. -/
def bracketed? (cs : List Char) : Option String :=
  if cs.getLast? == some ']' then
    (Address.v6? cs.dropLast).map fun groups => "[" ++ Address.v6Text groups ++ "]"
  else none

/-- The text of a host that a special scheme names. -/
def named? (cs : List Char) : Option String :=
  match cs with
  | '[' :: rest => bracketed? rest
  | _ =>
    match (Percent.decode? (String.ofList cs)).bind Domain.ascii? with
    | none => none
    | some name =>
      if name == "" then none
      else if endsInNumber name then
        (((labels name).mapM number?).bind addressOf?).map Address.v4Text
      else some name

/-- Whether a byte of another host stands for itself. -/
def keeps (b : UInt8) : Bool :=
  32 ≤ b && b < 127

/-- The text of a host under any other scheme. -/
def plain? (cs : List Char) : Option String :=
  match cs with
  | '[' :: rest => bracketed? rest
  | _ => if cs.any isDelimiter then none else some (Percent.encode keeps (String.ofList cs))

end VmLaunch.Url.Host
