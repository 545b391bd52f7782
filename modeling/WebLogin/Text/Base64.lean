/-
Base64 without padding.

Bytes are cut into groups of six bits, the last one filled up with zeros, and each group is one
character of an alphabet. `Base64.decode?` accepts exactly the texts that `Base64.encode` writes:
no padding, no blanks, no other character, and no set bit in the filling.
-/
namespace WebLogin

namespace Base64

/-- The two characters of an alphabet after the letters and digits. -/
structure Alphabet where
  /-- The character of 62. -/
  char62 : Char
  /-- The character of 63. -/
  char63 : Char

/-- The usual alphabet. -/
def standard : Alphabet := ⟨'+', '/'⟩

/-- The alphabet that needs no escapes in addresses. -/
def urlSafe : Alphabet := ⟨'-', '_'⟩

namespace Alphabet

/-- The character of a number below 64. -/
def digit (a : Alphabet) (n : Nat) : Char :=
  if n < 26 then Char.ofNat ('A'.toNat + n)
  else if n < 52 then Char.ofNat ('a'.toNat + (n - 26))
  else if n < 62 then Char.ofNat ('0'.toNat + (n - 52))
  else if n = 62 then a.char62
  else a.char63

/-- The number that a character stands for. -/
def value? (a : Alphabet) (c : Char) : Option Nat :=
  if 'A' ≤ c && c ≤ 'Z' then some (c.toNat - 'A'.toNat)
  else if 'a' ≤ c && c ≤ 'z' then some (c.toNat - 'a'.toNat + 26)
  else if '0' ≤ c && c ≤ '9' then some (c.toNat - '0'.toNat + 52)
  else if c = a.char62 then some 62
  else if c = a.char63 then some 63
  else none

end Alphabet

/-- The groups of six bits of some bytes. -/
def sextets : List UInt8 → List Nat
  | [] => []
  | [x] => [x.toNat / 4, x.toNat % 4 * 16]
  | [x, y] => [x.toNat / 4, x.toNat % 4 * 16 + y.toNat / 16, y.toNat % 16 * 4]
  | x :: y :: z :: rest =>
    x.toNat / 4 :: (x.toNat % 4 * 16 + y.toNat / 16) :: (y.toNat % 16 * 4 + z.toNat / 64) ::
      z.toNat % 64 :: sextets rest

/-- The bytes of groups of six bits; `none` if a group is left over or the filling is not zero. -/
def ofSextets? : List Nat → Option (List UInt8)
  | [] => some []
  | [_] => none
  | [a, b] => if b % 16 = 0 then some [(a * 4 + b / 16).toUInt8] else none
  | [a, b, c] =>
    if c % 4 = 0 then some [(a * 4 + b / 16).toUInt8, (b % 16 * 16 + c / 4).toUInt8] else none
  | a :: b :: c :: d :: rest =>
    (ofSextets? rest).map fun bytes =>
      (a * 4 + b / 16).toUInt8 :: (b % 16 * 16 + c / 4).toUInt8 :: (c % 4 * 64 + d).toUInt8 :: bytes

/-- Writes bytes in an alphabet. -/
def encode (a : Alphabet) (bytes : List UInt8) : List Char :=
  (sextets bytes).map a.digit

/-- Reads the bytes that a text writes in an alphabet. -/
def decode? (a : Alphabet) (text : List Char) : Option (List UInt8) :=
  (text.mapM a.value?).bind ofSextets?

end Base64

end WebLogin
