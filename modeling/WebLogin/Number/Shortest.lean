/-
The shortest decimal text of a binary floating point number.

Among the decimals that round to the number, `Binary64.shortest` takes one with the fewest digits,
and of those the nearest. `Binary64.text` writes it without an exponent, with a point only where
digits follow it.
-/
import WebLogin.Number.Binary64

namespace WebLogin

namespace Binary64

/-- Half the distance to the neighbours below and above, in units of a quarter of the last digit:
below a power of two the numbers lie twice as close. -/
def gaps (x : Binary64) : Nat × Nat :=
  if x.mantissa = significandLimit / 2 && minExponent < x.exponent then (1, 2) else (2, 2)

/-- Whether the decimal `n * 10 ^ k` rounds to a positive number. -/
def roundsTo (x : Binary64) (n : Nat) (k : Int) : Bool :=
  -- everything in units of a quarter of the last binary digit, over a common denominator
  let (below, above) := x.gaps
  let e := x.exponent - 2
  let decimal := n * Nat.pow 10 k.toNat * Nat.pow 2 (-e).toNat
  let unit := Nat.pow 10 (-k).toNat * Nat.pow 2 e.toNat
  let low := (4 * x.mantissa - below) * unit
  let high := (4 * x.mantissa + above) * unit
  if x.mantissa % 2 = 0 then low ≤ decimal && decimal ≤ high else low < decimal && decimal < high

/-- The multiples of `10 ^ k` just below and just above a positive number, the nearer one first. -/
def decimalNeighbours (x : Binary64) (k : Int) : List Nat :=
  let (n, d) := x.fraction
  let n := if 0 ≤ k then n else n * Nat.pow 10 (-k).toNat
  let d := if 0 ≤ k then d * Nat.pow 10 k.toNat else d
  let q := n / d
  if 2 * (n % d) ≤ d then [q, q + 1] else [q + 1, q]

/-- The power of ten at the first digit of a positive number. -/
def leadingPower (x : Binary64) : Int :=
  let (n, d) := x.fraction
  if d ≤ n then ((Nat.toDigits 10 (n / d)).length : Int) - 1
  else
    let k := (Nat.toDigits 10 (d / n)).length
    if d ≤ n * Nat.pow 10 (k - 1) then -((k : Int) - 1) else -(k : Int)

/-- Digits and power of ten of a shortest decimal of a positive number. -/
def shortest (x : Binary64) : Nat × Int :=
  let top := x.leadingPower
  let found := (List.range 17).findSome? fun (p : Nat) =>
    let k := top - p
    ((x.decimalNeighbours k).find? fun n => x.roundsTo n k).map (·, k)
  found.getD (0, 0)

/-- A decimal `n * 10 ^ k` in positional form. -/
def positional (n : Nat) (k : Int) : String :=
  if 0 ≤ k then toString (n * Nat.pow 10 k.toNat)
  else
    let places := (-k).toNat
    let whole := toString (n / Nat.pow 10 places)
    let digits := (toString (n % Nat.pow 10 places)).toList
    let padded := List.replicate (places - digits.length) '0' ++ digits
    let kept := (padded.reverse.dropWhile (· == '0')).reverse
    if kept.isEmpty then whole else whole ++ "." ++ String.ofList kept

/-- The number as a shortest decimal in positional form. -/
def text (x : Binary64) : String :=
  let sign := if x.negative then "-" else ""
  if x.isZero then sign ++ "0"
  else
    let (n, k) := x.shortest
    sign ++ positional n k

end Binary64

end WebLogin
