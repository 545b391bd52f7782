/-
The tokens of a JSON text: blanks, literal names, strings and numbers.

A reader takes the bytes that are left, and gives a value or the first fault, and the bytes that
are left then. So a fault has a place: everything up to it has been taken, and a caller that can do
without the value goes on from there. Strings are read in two ways: a string whose value is wanted
must be valid Unicode, while a string that is passed over need only end properly. Numbers likewise
are only measured when their value is wanted.
-/
import WebLogin.Number.Binary64
import WebLogin.Number.Limits
import WebLogin.Text.Utf8

namespace WebLogin

namespace Json

/-- Why a text is not the JSON value that is wanted. -/
inductive Fault where
  /-- The text is not JSON. -/
  | malformed
  /-- The text so far is JSON, but of another form than wanted. -/
  | mismatch
  /-- The text ends too early. -/
  | unfinished
  deriving DecidableEq, Repr

/-- A reader of a value from the bytes of a text, which keeps its place when it fails. -/
abbrev Reader (α : Type) := EStateM Fault (List UInt8) α

/-- The byte of an ASCII character. -/
def byte (c : Char) : UInt8 := c.toNat.toUInt8

/-- The reader that fails. -/
def fail {α : Type} (f : Fault) : Reader α := throw f

/-- Reads a value that may be at fault; the bytes up to the fault are taken. -/
def attempt {α : Type} (value : Reader α) : Reader (Except Fault α) := fun text =>
  match value text with
  | .ok a rest => .ok (.ok a) rest
  | .error f rest => .ok (.error f) rest

/-- The next byte, which stays in place. -/
def peek? : Reader (Option UInt8) := do return (← get).head?

/-- Drops the next byte. -/
def skip : Reader Unit := modify List.tail

/-- Takes the next byte; at the end of the text the reader fails as told. -/
def next (atEnd : Fault) : Reader UInt8 := do
  match ← get with
  | [] => fail atEnd
  | b :: rest => set rest; return b

/-- Whether a byte is one of the four blanks between tokens. -/
def isBlank (b : UInt8) : Bool :=
  b == byte ' ' || b == byte '\t' || b == byte '\n' || b == byte '\r'

/-- Passes over blanks and gives the next byte, which stays in place. -/
def peekToken? : Reader (Option UInt8) := do
  modify (List.dropWhile isBlank)
  peek?

/-- Whether a byte is a decimal digit. -/
def isDigit (b : UInt8) : Bool := byte '0' ≤ b && b ≤ byte '9'

/-- Takes the letters of a literal name. -/
def literal : List Char → Reader Unit
  | [] => return
  | c :: cs => do
    if (← next .unfinished) = byte c then literal cs else fail .malformed

/-! ### Strings -/

/-- The byte that a one-letter escape stands for. -/
def shortEscape? (b : UInt8) : Option UInt8 :=
  [('"', 0x22), ('\\', 0x5c), ('/', 0x2f), ('b', 0x08), ('f', 0x0c), ('n', 0x0a), ('r', 0x0d),
    ('t', 0x09)].lookup (Char.ofNat b.toNat)

/-- The value of a hexadecimal digit. -/
def hexValue? (b : UInt8) : Option Nat :=
  if isDigit b then some (b.toNat - 0x30)
  else if byte 'a' ≤ b && b ≤ byte 'f' then some (b.toNat - 0x61 + 10)
  else if byte 'A' ≤ b && b ≤ byte 'F' then some (b.toNat - 0x41 + 10)
  else none

/-- Reads four hexadecimal digits; four bytes are taken even if they are others. -/
def hexQuad : Reader Nat := do
  let quad ← modifyGet fun text => (text.take 4, text.drop 4)
  match quad with
  | [a, b, c, d] =>
    match hexValue? a, hexValue? b, hexValue? c, hexValue? d with
    | some a, some b, some c, some d => return ((a * 16 + b) * 16 + c) * 16 + d
    | _, _, _, _ => fail .malformed
  | _ => fail .unfinished

/-- Whether a code unit is the first of a surrogate pair. -/
def isLeading (n : Nat) : Bool := 0xd800 ≤ n && n ≤ 0xdbff

/-- Whether a code unit is the second of a surrogate pair. -/
def isTrailing (n : Nat) : Bool := 0xdc00 ≤ n && n ≤ 0xdfff

/-- Reads the character of a numeric escape after its backslash and letter, which may be written
as a surrogate pair of two such escapes. -/
def unicodeEscape : Reader (List UInt8) := do
  let n ← hexQuad
  if isTrailing n then fail .malformed
  else if !isLeading n then return String.utf8EncodeChar (Char.ofNat n)
  else
    if (← next .unfinished) ≠ byte '\\' then fail .malformed
    else if (← next .unfinished) ≠ byte 'u' then fail .malformed
    else
      let m ← hexQuad
      if isTrailing m then
        return String.utf8EncodeChar (Char.ofNat (0x10000 + (n - 0xd800) * 0x400 + (m - 0xdc00)))
      else fail .malformed

/-- A piece of a string: its end, or some bytes of its value. -/
inductive Piece where
  /-- The closing quote. -/
  | close
  /-- Bytes of the value. -/
  | bytes (bs : List UInt8)

/-- Reads one piece of a string whose value is wanted. -/
def piece : Reader Piece := do
  let b ← next .unfinished
  if b = byte '"' then return .close
  else if b = byte '\\' then
    let e ← next .unfinished
    if e = byte 'u' then return .bytes (← unicodeEscape)
    else
      match shortEscape? e with
      | some v => return .bytes [v]
      | none => fail .malformed
  else if b < 0x20 then fail .malformed
  else return .bytes [b]

/-- Reads a string after its opening quote; `done` holds the bytes so far, the last one first, and
`fuel` bounds the number of pieces. -/
def stringRest : Nat → List UInt8 → Reader (List UInt8)
  | 0, _ => fail .unfinished
  | fuel + 1, done => do
    match ← piece with
    | .close => return done.reverse
    | .bytes bs => stringRest fuel (bs.reverse ++ done)

/-- Reads the value of a string after its opening quote. -/
def stringBody : Reader String := do
  let bs ← stringRest ((← get).length + 1) []
  match Utf8.decode? bs with
  | some s => return s
  | none => fail .malformed

/-- Passes over a string after its opening quote; only the form of its escapes is looked at. -/
def skipString : Nat → Reader Unit
  | 0 => fail .unfinished
  | fuel + 1 => do
    let b ← next .unfinished
    if b = byte '"' then return
    else if b = byte '\\' then
      let e ← next .unfinished
      if e = byte 'u' then do
        let _ ← hexQuad
        skipString fuel
      else if (shortEscape? e).isSome then skipString fuel
      else fail .malformed
    else if b < 0x20 then fail .malformed
    else skipString fuel

/-! ### Numbers -/

/-- The value of a number token. -/
inductive Number where
  /-- An integer from 0 to `2 ^ 64 - 1`, written without a minus. -/
  | nat (n : Nat)
  /-- The negative of a positive integer up to `2 ^ 63`. -/
  | negative (n : Nat)
  /-- Any other number. -/
  | binary (x : Binary64)
  deriving DecidableEq, Repr

/-- The parts of a number token after its sign. -/
structure Numeral where
  /-- The digits before the point. -/
  whole : List Nat
  /-- The digits after the point. -/
  fractional : List Nat
  /-- Whether the exponent is below zero, and its amount unless that reaches `2 ^ 31`. -/
  exponent : Option (Bool × Option Nat)

/-- The value of a byte that is a digit. -/
def digitValue (b : UInt8) : Nat := b.toNat - 0x30

/-- Takes digits. -/
def digits : Reader (List Nat) :=
  modifyGet fun text => ((text.takeWhile isDigit).map digitValue, text.dropWhile isDigit)

/-- Takes at least one digit; at the end of the text the reader fails as told. -/
def someDigits (atEnd : Fault) : Reader (List Nat) := do
  match ← peek? with
  | none => fail atEnd
  | some b => if isDigit b then digits else fail .malformed

/-- Takes the next byte, which must be a digit. -/
def digit (atEnd : Fault) : Reader Nat := do
  let b ← next atEnd
  if isDigit b then return digitValue b else fail .malformed

/-- Takes the digits before and after the point of a number; the first one is zero only if it is
the last one before the point. -/
def mantissa (atEnd : Fault) : Reader (List Nat × List Nat) := do
  let first ← digit atEnd
  let whole ←
    if first ≠ 0 then do pure (first :: (← digits))
    else if (← peek?).any isDigit then fail .malformed
    else pure [0]
  if (← peek?) = some (byte '.') then do
    skip
    return (whole, ← someDigits atEnd)
  else return (whole, [])

/-- Takes the letter and the sign of an exponent, if there is one, and says whether it is below
zero. -/
def exponentSign : Reader (Option Bool) := do
  match ← peek? with
  | some b =>
    if b = byte 'e' || b = byte 'E' then do
      skip
      let minus := (← peek?) = some (byte '-')
      if minus || (← peek?) = some (byte '+') then skip
      return some minus
    else return none
  | none => return none

/-- The number that the digits at the front of a text append to another one, and the rest of the
text. If the number reaches `2 ^ 31`, the rest begins after the digit that brings it there. -/
def appendDigits : Nat → List UInt8 → Option Nat × List UInt8
  | n, [] => (some n, [])
  | n, b :: rest =>
    if isDigit b then
      let m := n * 10 + digitValue b
      if signedLimit32 ≤ m then (none, rest) else appendDigits m rest
    else (some n, b :: rest)

/-- Takes the digits of an exponent. If it reaches `2 ^ 31` it must not be above zero, unless every
digit of the mantissa is zero. -/
def exponentAmount (below zero : Bool) : Reader (Option Nat) := do
  let first ← digit .unfinished
  match ← modifyGet (appendDigits first) with
  | some n => return some n
  | none =>
    if below || zero then do
      let _ ← digits
      return none
    else fail .malformed

/-- Takes the parts of a number after its sign. -/
def numeral : Reader Numeral := do
  let (whole, fractional) ← mantissa .unfinished
  let zero := (whole ++ fractional).all (· = 0)
  match ← exponentSign with
  | none => return { whole, fractional, exponent := none }
  | some below =>
    return { whole, fractional, exponent := some (below, ← exponentAmount below zero) }

/-- The number that some decimal digits write. -/
def ofDigits (ds : List Nat) : Nat := ds.foldl (fun n d => n * 10 + d) 0

/-- Appends digits to a significand as long as it stays below `2 ^ 64`; gives it and the digits
that found no room. -/
def fillSignificand : Nat → List Nat → Nat × List Nat
  | n, [] => (n, [])
  | n, d :: ds => if n * 10 + d < limit64 then fillSignificand (n * 10 + d) ds else (n, d :: ds)

/-- The value of a number that is no integer of 64 bits: the leading digits that fit a
significand of 64 bits, times a power of ten. -/
def Numeral.binary? (negative : Bool) (t : Numeral) : Option Binary64 :=
  let (n, rest) := fillSignificand 0 t.whole
  let (m, left) := fillSignificand n t.fractional
  let point : Int := (rest.length : Int) - ((t.fractional.length - left.length : Nat) : Int)
  match t.exponent with
  | none => Binary64.ofDecimal? negative m point
  | some (below, some e) => Binary64.ofDecimal? negative m (if below then point - e else point + e)
  | some (_, none) => some ⟨negative, 0, Binary64.minExponent⟩

/-- The value of a number token; `none` if it is too large. -/
def Numeral.value? (negative : Bool) (t : Numeral) : Option Number :=
  let n := ofDigits t.whole
  if t.fractional.isEmpty && t.exponent.isNone then
    if !negative && n < limit64 then some (.nat n)
    else if negative && 0 < n && n ≤ signedLimit64 then some (.negative n)
    else (t.binary? negative).map .binary
  else (t.binary? negative).map .binary

/-- Takes the minus of a number, if there is one. -/
def minus : Reader Bool := do
  let negative := (← peek?) = some (byte '-')
  if negative then skip
  return negative

/-- Reads a number whose first byte is in place. -/
def number : Reader Number := do
  let negative ← minus
  match (← numeral).value? negative with
  | some n => return n
  | none => fail .malformed

/-- Passes over a number whose first byte is in place, however large it is. -/
def skipNumber : Reader Unit := do
  let _ ← minus
  let _ ← mantissa .malformed
  if (← exponentSign).isSome then
    let _ ← someDigits .malformed

end Json

end WebLogin
