/-
Classes of Unicode characters that decide which names are legal, and lower case.

`isWhiteSpace` is the property White_Space and `isControl` the general category Cc. Both are
given by their code point ranges, so membership is decided by arithmetic on the code point.
`lowerCase` is exact wherever its result is an ASCII character.
-/
namespace WebLogin

/-- The code points with the property White_Space, as inclusive ranges. -/
def whiteSpaceRanges : List (Nat × Nat) :=
  [(0x09, 0x0d), (0x20, 0x20), (0x85, 0x85), (0xa0, 0xa0), (0x1680, 0x1680), (0x2000, 0x200a),
   (0x2028, 0x2029), (0x202f, 0x202f), (0x205f, 0x205f), (0x3000, 0x3000)]

/-- The code points of the general category Cc, as inclusive ranges. -/
def controlRanges : List (Nat × Nat) :=
  [(0x00, 0x1f), (0x7f, 0x9f)]

/-- Whether a code point lies in one of the ranges. -/
def inRanges (ranges : List (Nat × Nat)) (n : Nat) : Bool :=
  ranges.any fun (low, high) => low ≤ n && n ≤ high

/-- Whether a character has the property White_Space. -/
def isWhiteSpace (c : Char) : Bool :=
  inRanges whiteSpaceRanges c.toNat

/-- Whether a character is a control character (category Cc). -/
def isControl (c : Char) : Bool :=
  inRanges controlRanges c.toNat

/-- The lower-case form of a character if that is an ASCII character, and else the character itself.
Beside the capital letters of ASCII only the Kelvin sign has such a form. -/
def lowerCase (c : Char) : Char := if c = '\u212a' then 'k' else c.toLower

/-- Removes the White_Space characters at both ends. -/
def trimWhiteSpace (cs : List Char) : List Char :=
  ((cs.dropWhile isWhiteSpace).reverse.dropWhile isWhiteSpace).reverse

end WebLogin
