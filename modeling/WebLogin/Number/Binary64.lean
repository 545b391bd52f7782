/-
Binary floating point numbers of 64 bits, as exact arithmetic on natural numbers.

A `Binary64` is a finite value `± mantissa * 2 ^ exponent`. `Binary64.nearest?` rounds a quotient
of natural numbers to the nearest of them, a tie to the even mantissa; the other operations are
one exact operation followed by that rounding.
-/
namespace WebLogin

/-- A finite number `± mantissa * 2 ^ exponent`, with a sign of zero. -/
structure Binary64 where
  /-- Whether the sign is a minus. -/
  negative : Bool
  /-- The digits in base two, at most 53 of them. -/
  mantissa : Nat
  /-- The weight of the last digit, at least -1074. -/
  exponent : Int
  deriving DecidableEq, Repr

namespace Binary64

/-- The least weight of a last digit. -/
def minExponent : Int := -1074

/-- The greatest weight of a last digit. -/
def maxExponent : Int := 971

/-- The least number with more than 53 digits in base two. -/
def significandLimit : Nat := 9007199254740992

/-- The quotient of two numbers rounded to the nearest integer, a tie to the even one. -/
def divHalfEven (n d : Nat) : Nat :=
  let q := n / d
  let r := n % d
  if 2 * r < d then q
  else if 2 * r > d then q + 1
  else q + q % 2

/-- The weight that the last digit of the nearest number to `n / d` has before rounding. -/
def lastWeight (n d : Nat) : Int :=
  let guess : Int := (n.log2 : Int) - d.log2
  let below := if 0 ≤ guess then n < d * Nat.pow 2 guess.toNat
    else n * Nat.pow 2 (-guess).toNat < d
  max ((if below then guess - 1 else guess) - 52) minExponent

/-- The number nearest to `± n / d`; `none` if it is beyond the greatest one. -/
def nearest? (negative : Bool) (n d : Nat) : Option Binary64 :=
  if n = 0 then some ⟨negative, 0, minExponent⟩
  else
    let e := lastWeight n d
    let m := if 0 ≤ e then divHalfEven n (d * Nat.pow 2 e.toNat)
      else divHalfEven (n * Nat.pow 2 (-e).toNat) d
    let (m, e) := if m = significandLimit then (significandLimit / 2, e + 1) else (m, e)
    if e > maxExponent then none else some ⟨negative, m, e⟩

/-- The absolute value as a fraction of natural numbers. -/
def fraction (x : Binary64) : Nat × Nat :=
  if 0 ≤ x.exponent then (x.mantissa * Nat.pow 2 x.exponent.toNat, 1)
  else (x.mantissa, Nat.pow 2 (-x.exponent).toNat)

/-- Whether the number is zero of either sign. -/
def isZero (x : Binary64) : Bool := x.mantissa == 0

/-- The number nearest to an integer. -/
def ofNat? (n : Nat) : Option Binary64 := nearest? false n 1

/-- The rounded product; `none` if it is beyond the greatest number. -/
def mul? (x y : Binary64) : Option Binary64 :=
  nearest? (x.negative != y.negative) (x.fraction.1 * y.fraction.1) (x.fraction.2 * y.fraction.2)

/-- The rounded quotient by a number that is not zero. -/
def div? (x y : Binary64) : Option Binary64 :=
  nearest? (x.negative != y.negative) (x.fraction.1 * y.fraction.2) (x.fraction.2 * y.fraction.1)

/-- The number with the sign changed. -/
def neg (x : Binary64) : Binary64 := { x with negative := !x.negative }

/-- The greatest power of ten that is not beyond the greatest number. -/
def greatestPower : Nat := 308

/-- The number nearest to a power of ten. -/
def powerOfTen? (k : Nat) : Option Binary64 := ofNat? (Nat.pow 10 k)

/-- Divides by the greatest power of ten so many times, with a rounding each time; zero stays. -/
def shrink : Nat → Binary64 → Option Binary64
  | 0, x => some x
  | n + 1, x => if x.isZero then some x else do shrink n (← x.div? (← powerOfTen? greatestPower))

/-- The number divided by `10 ^ k`, in steps of at most the greatest power. -/
def shiftDown (x : Binary64) (k : Nat) : Option Binary64 := do
  let steps := (k - 1) / greatestPower
  let y ← shrink steps x
  if y.isZero then some y else y.div? (← powerOfTen? (k - steps * greatestPower))

/-- The number of `significand * 10 ^ exponent`: the significand, the power and their product or
quotient are each rounded; `none` if the result is too large. -/
def ofDecimal? (negative : Bool) (significand : Nat) (exponent : Int) : Option Binary64 := do
  let x ← ofNat? significand
  let y ←
    if 0 ≤ exponent then
      if exponent ≤ greatestPower then x.mul? (← powerOfTen? exponent.toNat)
      else if x.isZero then some x
      else none
    else x.shiftDown (-exponent).toNat
  return if negative then y.neg else y

/-- The integer nearest to the number, a tie to the one away from zero. -/
def round (x : Binary64) : Int :=
  let (n, d) := x.fraction
  let m : Int := (2 * n + d) / (2 * d)
  if x.negative then -m else m

end Binary64

end WebLogin
