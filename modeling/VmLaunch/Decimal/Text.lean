import VmLaunch.Decimal.Binary64

/-!
# Decimal text of binary64 numbers

`shortest` finds the fewest decimal digits that still select the number, the
nearest such digits when there are several and the even ones of two that are
equally near; `fixed` rounds the exact value to a
number of places, a tie going to the even digit. `parse?` reads decimal text as
the nearest double.
-/

namespace VmLaunch.Binary64

/-- Natural number of a text of decimal digits, in order. -/
def digitsValue (cs : List Char) : Nat :=
  cs.foldl (fun n c => 10 * n + (c.toNat - '0'.toNat)) 0

/-- The decimal digits of a natural number. -/
def digitsOf (n : Nat) : List Char :=
  Nat.toDigits 10 n

/-- The power of ten of the first digit of a positive ratio. -/
def ratioLog10 (numerator denominator : Nat) : Int :=
  if denominator ≤ numerator then Int.ofNat (decimalLength (numerator / denominator)) - 1
  else
    let below := decimalLength (denominator / numerator)
    if numerator * Nat.pow 10 (below - 1) = denominator then 1 - Int.ofNat below
    else -Int.ofNat below

/-- Four times the significand of a number and of the two ends of the interval
of reals that round to it. -/
structure Quarters where
  low : Nat
  value : Nat
  high : Nat
  closed : Bool

/-- The rounding interval of a positive finite number. Below a power of two the
neighbour is half as far away. -/
def quarters (x : Binary64) : Quarters :=
  let m := x.significand
  let near := m == 0x10000000000000 && 1 < x.exponentField
  ⟨if near then 4 * m - 1 else 4 * m - 2, 4 * m, 4 * m + 2, m % 2 == 0⟩

/-- Whether a grid point, scaled like the interval, rounds to the number. -/
def Quarters.admits (q : Quarters) (numerator denominator point : Nat) : Bool :=
  let place := point * denominator
  if q.closed then q.low * numerator ≤ place && place ≤ q.high * numerator
  else q.low * numerator < place && place < q.high * numerator

/-- Choose between the grid points around the value of `q * numerator / denominator`:
the one that rounds to the number, the nearer of two, the even one of two equally near. -/
def gridPoint? (q : Quarters) (numerator denominator : Nat) : Option Nat :=
  let below := q.value * numerator / denominator
  let above := below + 1
  let belowFits := q.admits numerator denominator below
  let aboveFits := q.admits numerator denominator above
  let toBelow := q.value * numerator - below * denominator
  let toAbove := above * denominator - q.value * numerator
  if belowFits && aboveFits then
    some (if toBelow < toAbove then below
      else if toAbove < toBelow then above
      else below + below % 2)
  else if belowFits then some below
  else if aboveFits then some above
  else none

/-- Digits and power of ten, for grids of `count`, `count + 1`, … digits. -/
def searchGrids (q : Quarters) (numerator denominator : Nat) (first : Int) (count : Nat) :
    Nat → Nat × Int
  | 0 => (0, 0)
  | tries + 1 =>
    let power := first + 1 - Int.ofNat count
    let found :=
      if 0 ≤ power then gridPoint? q numerator (denominator * Nat.pow 10 power.toNat)
      else gridPoint? q (numerator * Nat.pow 10 (-power).toNat) denominator
    match found with
    | some point => (point, power)
    | none => searchGrids q numerator denominator first (count + 1) tries

/-- Move trailing zeros of the digits into the power of ten. -/
def stripZeros (digits : Nat) (power : Int) : Nat → Nat × Int
  | 0 => (digits, power)
  | fuel + 1 =>
    if digits != 0 && digits % 10 == 0 then stripZeros (digits / 10) (power + 1) fuel
    else (digits, power)

/-- The fewest digits that select a positive finite number, with their power of ten. -/
def shortest (x : Binary64) : Nat × Int :=
  let numerator := if 0 ≤ x.exponent then Nat.pow 2 x.exponent.toNat else 1
  let denominator := if 0 ≤ x.exponent then 4 else 4 * Nat.pow 2 (-x.exponent).toNat
  let q := x.quarters
  let first := ratioLog10 (q.value * numerator) denominator
  let (digits, power) := searchGrids q numerator denominator first 1 17
  stripZeros digits power 20

/-- The layout of shortest digits: positional up to sixteen integer digits and down
to four zeros after the point, otherwise one digit before the point and an
exponent that always has its sign. -/
def layOut (digits : List Char) (power : Int) : List Char :=
  let point := Int.ofNat digits.length + power
  if 0 ≤ power && point ≤ 16 then
    digits ++ List.replicate power.toNat '0' ++ ['.', '0']
  else if 0 < point && point ≤ 16 then
    digits.take point.toNat ++ '.' :: digits.drop point.toNat
  else if -5 < point && point ≤ 0 then
    '0' :: '.' :: List.replicate (-point).toNat '0' ++ digits
  else
    let mantissa :=
      match digits with
      | first :: second :: rest => first :: '.' :: second :: rest
      | few => few
    let exponent := point - 1
    let sign := if exponent < 0 then '-' else '+'
    mantissa ++ 'e' :: sign :: digitsOf exponent.natAbs

/-- Shortest text of a finite number; always with a point or an exponent. -/
def toText (x : Binary64) : String :=
  let body :=
    if x.isZero then ['0', '.', '0']
    else
      let (digits, power) := x.shortest
      layOut (digitsOf digits) power
  String.ofList (if x.negative then '-' :: body else body)

/-- Text with a fixed number of places, of any double. -/
def fixed (x : Binary64) (places : Nat) : String :=
  let sign := if x.negative then "-" else ""
  if x.isNaN then "NaN"
  else if !x.isFinite then sign ++ "inf"
  else
    let scaled := roundDiv (x.ratio.1 * Nat.pow 10 places) x.ratio.2
    let whole := digitsOf (scaled / Nat.pow 10 places)
    let part := digitsOf (scaled % Nat.pow 10 places)
    let padded := List.replicate (places - part.length) '0' ++ part
    sign ++ String.ofList (whole ++ '.' :: padded)

/-- Whether a character is an ASCII decimal digit. -/
def isDigit (c : Char) : Bool :=
  '0' ≤ c && c ≤ '9'

/-- The exponent written after a mantissa: nothing, or a letter, a sign and digits. -/
def parseExponent? : List Char → Option Int
  | [] => some 0
  | c :: rest =>
    if c == 'e' || c == 'E' then
      let (negative, digits) :=
        match rest with
        | '-' :: r => (true, r)
        | '+' :: r => (false, r)
        | r => (false, r)
      if digits.isEmpty || !digits.all isDigit then none
      else
        let n := Int.ofNat (digitsValue digits)
        some (if negative then -n else n)
    else none

/-- An unsigned decimal number: digits with an optional point, at least one digit,
and an optional exponent. -/
def parseUnsigned? (negative : Bool) (cs : List Char) : Option Binary64 :=
  let whole := cs.takeWhile isDigit
  let afterWhole := cs.dropWhile isDigit
  let (part, tail) :=
    match afterWhole with
    | '.' :: r => (r.takeWhile isDigit, r.dropWhile isDigit)
    | r => ([], r)
  if whole.isEmpty && part.isEmpty then none
  else
    (parseExponent? tail).map fun power =>
      ofDecimal negative (digitsValue (whole ++ part)) (power - Int.ofNat part.length)

/-- Read a decimal number, an infinity or a NaN, with an optional sign. Words are
read without regard to ASCII case. -/
def parse? (s : String) : Option Binary64 :=
  let (negative, body) :=
    match s.toList with
    | '-' :: r => (true, r)
    | '+' :: r => (false, r)
    | r => (false, r)
  let word := String.ofList (body.map Char.toLower)
  if word == "inf" || word == "infinity" then some (ofParts negative infinityBits)
  else if word == "nan" then some (ofParts negative (infinityBits + 0x8000000000000))
  else parseUnsigned? negative body

end VmLaunch.Binary64
