/-!
# Binary64 numbers

A `Binary64` retains the sixty-four bits of an IEEE 754 double. A finite
magnitude is `significand * 2 ^ exponent` with natural significand, and
`ofRatio` selects the double nearest to a ratio of natural numbers, a tie going
to the even significand.
-/

namespace VmLaunch

/-- A double given by its bit pattern. -/
structure Binary64 where
  bits : UInt64
  deriving DecidableEq, Inhabited

namespace Binary64

/-- The bit that carries the sign. -/
def signBit : Nat := 0x8000000000000000

/-- The pattern of positive infinity, which is also the first magnitude that is not finite. -/
def infinityBits : Nat := 0x7FF * 0x10000000000000

/-- The double of a sign and a pattern without sign. -/
def ofParts (negative : Bool) (magnitude : Nat) : Binary64 :=
  ⟨UInt64.ofNat (if negative then signBit + magnitude else magnitude)⟩

/-- Whether the sign bit is set. -/
def negative (x : Binary64) : Bool :=
  signBit ≤ x.bits.toNat

/-- The pattern without its sign. -/
def magnitude (x : Binary64) : Nat :=
  x.bits.toNat % signBit

/-- Whether the number is neither infinite nor a NaN. -/
def isFinite (x : Binary64) : Bool :=
  x.magnitude < infinityBits

/-- Whether the pattern is a NaN. -/
def isNaN (x : Binary64) : Bool :=
  infinityBits < x.magnitude

/-- Whether the number is one of the two zeros. -/
def isZero (x : Binary64) : Bool :=
  x.magnitude == 0

/-- The biased exponent field. -/
def exponentField (x : Binary64) : Nat :=
  x.magnitude / 0x10000000000000

/-- The significand of a finite number. -/
def significand (x : Binary64) : Nat :=
  if x.exponentField = 0 then x.magnitude else 0x10000000000000 + x.magnitude % 0x10000000000000

/-- The power of two that scales the significand of a finite number. -/
def exponent (x : Binary64) : Int :=
  if x.exponentField = 0 then -1074 else Int.ofNat x.exponentField - 1075

/-- The magnitude of a finite number as a numerator over a denominator. -/
def ratio (x : Binary64) : Nat × Nat :=
  if 0 ≤ x.exponent then (x.significand * Nat.pow 2 x.exponent.toNat, 1)
  else (x.significand, Nat.pow 2 (-x.exponent).toNat)

/-- Quotient rounded to the nearest natural number, a tie going to the even one. -/
def roundDiv (numerator denominator : Nat) : Nat :=
  let quotient := numerator / denominator
  let twice := 2 * (numerator % denominator)
  if twice < denominator then quotient
  else if denominator < twice then quotient + 1
  else quotient + quotient % 2

/-- The greatest `e` with `2 ^ e * denominator ≤ numerator`, for positive arguments. -/
def ratioLog2 (numerator denominator : Nat) : Int :=
  let guess : Int := Int.ofNat numerator.log2 - Int.ofNat denominator.log2
  let reached :=
    if 0 ≤ guess then denominator * Nat.pow 2 guess.toNat ≤ numerator
    else denominator ≤ numerator * Nat.pow 2 (-guess).toNat
  if reached then guess else guess - 1

/-- Pattern of the double nearest to a ratio; infinity when the ratio is too large. -/
def magnitudeOfRatio (numerator denominator : Nat) : Nat :=
  if numerator = 0 then 0
  else
    let scale := max (ratioLog2 numerator denominator - 52) (-1074)
    let rounded :=
      if 0 ≤ scale then roundDiv numerator (denominator * Nat.pow 2 scale.toNat)
      else roundDiv (numerator * Nat.pow 2 (-scale).toNat) denominator
    min ((scale + 1074).toNat * 0x10000000000000 + rounded) infinityBits

/-- The double nearest to a signed ratio. -/
def ofRatio (negative : Bool) (numerator denominator : Nat) : Binary64 :=
  ofParts negative (magnitudeOfRatio numerator denominator)

/-- The double nearest to a natural number. -/
def ofNat (n : Nat) : Binary64 :=
  ofRatio false n 1

/-- Number of decimal digits. -/
def decimalLength (n : Nat) : Nat :=
  (Nat.toDigits 10 n).length

/-- The double nearest to `digits * 10 ^ power`. Powers far outside the range of
doubles are decided before any power of ten is formed. -/
def ofDecimal (negative : Bool) (digits : Nat) (power : Int) : Binary64 :=
  let top := power + Int.ofNat (decimalLength digits)
  if digits = 0 || top < -330 then ofParts negative 0
  else if 320 < top then ofParts negative infinityBits
  else if 0 ≤ power then ofRatio negative (digits * Nat.pow 10 power.toNat) 1
  else ofRatio negative digits (Nat.pow 10 (-power).toNat)

/-- The double nearest to the product of two finite magnitudes. -/
def timesMagnitude (x y : Binary64) : Binary64 :=
  ofRatio false (x.ratio.1 * y.ratio.1) (x.ratio.2 * y.ratio.2)

/-- The double nearest to the quotient of two finite magnitudes, the second not zero. -/
def overMagnitude (x y : Binary64) : Binary64 :=
  ofRatio false (x.ratio.1 * y.ratio.2) (x.ratio.2 * y.ratio.1)

/-- The same magnitude with the given sign. -/
def withSign (negative : Bool) (x : Binary64) : Binary64 :=
  ofParts negative x.magnitude

/-- The machine number with this pattern. -/
def toFloat (x : Binary64) : Float :=
  Float.ofBits x.bits

/-- The pattern of a machine number. -/
def ofFloat (x : Float) : Binary64 :=
  ⟨x.toBits⟩

end Binary64

end VmLaunch
