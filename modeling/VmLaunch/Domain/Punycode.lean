import VmLaunch.Text.Pieces

/-!
# Punycode

A label beyond ASCII is written as its ASCII characters, a hyphen and a series of
base-36 numbers. The numbers are the gaps between positions at which the other
characters are inserted, by increasing character; each has as many digits as its
thresholds allow, and the thresholds adapt to the gaps seen so far.
-/

namespace VmLaunch.Domain.Punycode

/-- A digit: letters for 0 to 25, decimal digits for 26 to 35. -/
def digitChar (d : Nat) : Char :=
  if d < 26 then Char.ofNat (97 + d) else Char.ofNat (22 + d)

/-- The value of a digit of either case. -/
def digitValue? (c : Char) : Option Nat :=
  if 'a' ≤ c && c ≤ 'z' then some (c.toNat - 97)
  else if 'A' ≤ c && c ≤ 'Z' then some (c.toNat - 65)
  else if '0' ≤ c && c ≤ '9' then some (c.toNat - 22)
  else none

/-- The least digit value that is followed by a further digit, for the digit of
weight `k`. -/
def threshold (k bias : Nat) : Nat :=
  min 26 (max 1 (k - bias))

/-- Scale a gap down to the range in which thresholds move, counting the digits. -/
def scaleDown : Nat → Nat → Nat → Nat × Nat
  | 0, delta, k => (delta, k)
  | fuel + 1, delta, k => if 455 < delta then scaleDown fuel (delta / 35) (k + 36) else (delta, k)

/-- The bias after a gap, with `count` characters placed. -/
def adapt (delta count : Nat) (first : Bool) : Nat :=
  let scaled := if first then delta / 700 else delta / 2
  let (delta, k) := scaleDown scaled (scaled + scaled / count) 0
  k + 36 * delta / (delta + 38)

/-- The digits of a gap. -/
def gapDigits (bias : Nat) : Nat → Nat → Nat → List Char
  | 0, _, _ => []
  | fuel + 1, k, gap =>
    let t := threshold k bias
    if gap < t then [digitChar gap]
    else
      digitChar (t + (gap - t) % (36 - t)) :: gapDigits bias fuel (k + 36) ((gap - t) / (36 - t))

/-- What is known between two insertions. -/
structure State where
  gap : Nat
  bias : Nat
  placed : Nat

/-- Pass one character of the label while those of value `n` are inserted. -/
def pass (basic n : Nat) (s : State) (c : Char) : State × List Char :=
  if c.toNat < n then ({ s with gap := s.gap + 1 }, [])
  else if c.toNat = n then
    ({ gap := 0, bias := adapt s.gap (s.placed + 1) (s.placed == basic), placed := s.placed + 1 },
      gapDigits s.bias (s.gap + 1) 36 s.gap)
  else (s, [])

/-- Pass every character of the label. -/
def passAll (basic n : Nat) : State → List Char → State × List Char
  | s, [] => (s, [])
  | s, c :: rest =>
    let (s, digits) := pass basic n s c
    let (s, more) := passAll basic n s rest
    (s, digits ++ more)

/-- Insert the characters of the given values one after the other. -/
def insertAll (label : List Char) (basic : Nat) : Nat → State → List Nat → List Char
  | _, _, [] => []
  | n, s, next :: rest =>
    let s := { s with gap := s.gap + (next - n) * (s.placed + 1) }
    let (s, digits) := passAll basic next s label
    digits ++ insertAll label basic (next + 1) { s with gap := s.gap + 1 } rest

/-- Place a number in an increasing list, once. -/
def insertNumber (n : Nat) : List Nat → List Nat
  | [] => [n]
  | m :: rest =>
    if n < m then n :: m :: rest
    else if n = m then m :: rest
    else m :: insertNumber n rest

/-- The ASCII form of a label, without the mark that announces it. -/
def encode (label : List Char) : List Char :=
  let ascii := label.filter fun c => c.toNat < 128
  let others := (label.filter fun c => 128 ≤ c.toNat).map Char.toNat
  let start := if ascii.isEmpty then [] else ascii ++ ['-']
  start ++ insertAll label ascii.length 128 ⟨0, 72, ascii.length⟩ (others.foldr insertNumber [])

/-- What the numbers of an ASCII form stay below. -/
def numberLimit : Nat :=
  0x100000000

/-- Read one gap: its value and the digits after it. -/
def readGap? (bias : Nat) (k weight sum : Nat) : List Char → Option (Nat × List Char)
  | [] => none
  | c :: rest =>
    match digitValue? c with
    | none => none
    | some d =>
      let t := threshold k bias
      let sum := sum + d * weight
      if numberLimit ≤ weight || numberLimit ≤ sum then none
      else if d < t then some (sum, rest)
      else readGap? bias (k + 36) (weight * (36 - t)) sum rest

/-- Insert the characters that the digits name among those already placed. -/
def readAll? : Nat → Nat → Nat → Nat → List Char → List Char → Option (List Char)
  | _, _, _, _, placed, [] => some placed
  | 0, _, _, _, _, _ => none
  | fuel + 1, n, start, bias, placed, digits =>
    match readGap? bias 36 1 start digits with
    | none => none
    | some (sum, rest) =>
      let count := placed.length + 1
      let value := n + sum / count
      let index := sum % count
      if (Char.ofNat value).toNat = value then
        readAll? fuel value (index + 1) (adapt (sum - start) count (start == 0))
          (placed.take index ++ Char.ofNat value :: placed.drop index) rest
      else none

/-- The label of an ASCII form: digits alone, or characters, a hyphen and digits. -/
def decode? (ascii : List Char) : Option (List Char) :=
  match Text.cutLastChars? '-' ascii with
  | some ([], _) => none
  | some (head, tail) => readAll? tail.length 128 0 72 head tail
  | none => readAll? ascii.length 128 0 72 [] ascii

end VmLaunch.Domain.Punycode
