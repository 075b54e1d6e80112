import VmLaunch.Json.Written

/-!
# Percent encoding

A byte that may not stand for itself is written as a percent sign and two
hexadecimal digits. `encode` writes the UTF-8 bytes of a text, `decode?` reads
them back; a percent sign that no two digits follow stands for itself.
-/

namespace VmLaunch.Percent

/-- A hexadecimal digit, upper case. -/
def upperHex (n : Nat) : Char :=
  (Nat.digitChar (n % 16)).toUpper

/-- A byte as a percent sign and two hexadecimal digits. -/
def escape (b : UInt8) : List Char :=
  ['%', upperHex (b.toNat / 16), upperHex b.toNat]

/-- A byte, escaped unless it may stand for itself. -/
def encodeByte (keeps : UInt8 → Bool) (b : UInt8) : List Char :=
  if keeps b then [Char.ofNat b.toNat] else escape b

/-- A text with every byte escaped that may not stand for itself. -/
def encodeChars (keeps : UInt8 → Bool) (s : String) : List Char :=
  s.toUTF8.toList.flatMap (encodeByte keeps)

/-- A text with every byte escaped that may not stand for itself. -/
def encode (keeps : UInt8 → Bool) (s : String) : String :=
  String.ofList (encodeChars keeps s)

/-- The value of a byte that is a hexadecimal digit. -/
def digit? (b : UInt8) : Option Nat :=
  if b < 0x80 then Written.hexValue? (Char.ofNat b.toNat) else none

/-- Bytes with every escape replaced by the byte that it stands for. -/
def decodeBytes : List UInt8 → List UInt8
  | [] => []
  | [b] => [b]
  | [b, c] => [b, c]
  | b :: high :: low :: rest =>
    match b == 0x25, digit? high, digit? low with
    | true, some h, some l => UInt8.ofNat (16 * h + l) :: decodeBytes rest
    | _, _, _ => b :: decodeBytes (high :: low :: rest)

/-- A text with every escape replaced, when the bytes are a text. -/
def decode? (s : String) : Option String :=
  String.fromUTF8? ⟨(decodeBytes s.toUTF8.toList).toArray⟩

end VmLaunch.Percent
