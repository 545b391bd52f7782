/-
Percent encoding.

A character that must not stand for itself is written byte by byte, each as a percent sign and two
upper-case hexadecimal digits. Decoding takes digits of either case, and a percent sign without
two of them after it stands for itself.
-/
import WebLogin.Text.Hex
import WebLogin.Text.Utf8

namespace WebLogin

namespace Percent

/-- The percent sign as a byte. -/
def sign : UInt8 := 0x25

/-- The value of a byte that is a hexadecimal digit. -/
def digit? (b : UInt8) : Option Nat := hexValue? (Char.ofNat b.toNat)

/-- Replaces each escape by the byte that it writes. -/
def decodeBytes : List UInt8 → List UInt8
  | [] => []
  | [b] => [b]
  | [b, x] => [b, x]
  | b :: x :: y :: rest =>
    match b == sign, digit? x, digit? y with
    | true, some high, some low => (high * 16 + low).toUInt8 :: decodeBytes rest
    | _, _, _ => b :: decodeBytes (x :: y :: rest)

/-- The text that an encoded text stands for, if its bytes are valid. -/
def decode? (s : String) : Option String := Utf8.decode? (decodeBytes (Utf8.bytes s))

/-- The escape of a byte. -/
def escapeByte (b : UInt8) : List Char :=
  ['%', upperHexDigit (b.toNat / 16), upperHexDigit (b.toNat % 16)]

/-- A character as it is written, given which ones must be escaped. -/
def escapeChar (isEscaped : Char → Bool) (c : Char) : List Char :=
  if isEscaped c then (Utf8.bytes (String.singleton c)).flatMap escapeByte else [c]

/-- A text with some of its characters escaped. -/
def encode (isEscaped : Char → Bool) (s : String) : String :=
  String.ofList (s.toList.flatMap (escapeChar isEscaped))

end Percent

end WebLogin
