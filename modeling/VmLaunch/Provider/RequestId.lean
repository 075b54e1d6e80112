/-!
# Request ids

The provider recognises a repeated insert by its request id, a random UUID: 128
bits in hexadecimal digits, of which six say that the others are random.
-/

namespace VmLaunch.RequestId

/-- The hexadecimal digits of a number, with leading zeros. -/
def hexDigits (width n : Nat) : List Char :=
  (List.range width).map fun i => Nat.digitChar (n / Nat.pow 16 (width - 1 - i) % 16)

/-- The last number of 122 bits. -/
def lastBits : Nat := 0x3FFFFFFFFFFFFFFFFFFFFFFFFFFFFFF

/-- The id of 122 random bits. -/
def ofBits (n : Nat) : String :=
  String.ofList
    (hexDigits 8 n ++ ['-'] ++ hexDigits 4 (n / 0x100000000) ++ ['-', '4'] ++
      hexDigits 3 (n / 0x1000000000000) ++ ['-'] ++
      [Nat.digitChar (8 + n / 0x1000000000000000 % 4)] ++
      hexDigits 3 (n / 0x4000000000000000) ++ ['-'] ++ hexDigits 12 (n / 0x4000000000000000000))

end VmLaunch.RequestId
