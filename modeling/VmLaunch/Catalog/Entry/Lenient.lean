import VmLaunch.Decimal.Text
import VmLaunch.Source.Record

/-!
# Lenient integers

The provider writes sixty-four bit integers as text. They are read as a number
or as decimal text, and as zero when they are null or empty.
-/

namespace VmLaunch.Lenient

/-- A natural number of sixty-four bits in decimal digits, with an optional plus sign. -/
def parse64? (s : String) : Option UInt64 :=
  let digits :=
    match s.toList with
    | '+' :: rest => rest
    | all => all
  let n := Binary64.digitsValue digits
  if digits.isEmpty || !digits.all Binary64.isDigit || 0x10000000000000000 ≤ n then none
  else some (UInt64.ofNat n)

/-- Read a lenient integer. -/
def nat64 : Json → Option UInt64
  | .null => some 0
  | .str s => if s == "" then some 0 else parse64? s
  | value => Source.nat64 value

/-- The number of a lenient integer as a value. -/
def encode (n : UInt64) : Json :=
  Json.int n.toNat

end VmLaunch.Lenient
