/-
JSON values of any form.

`Json.value` reads a whole value. Lists and objects may be nested at most 127 deep, and the fields
of an object are kept in the order in which they stand, a repeated name included. `Json.scalar`
reads a value that is neither.
-/
import WebLogin.Json.Typed

namespace WebLogin

namespace Json

/-- A JSON value. -/
inductive Value where
  /-- The name for no value. -/
  | null
  /-- A truth value. -/
  | bool (b : Bool)
  /-- A number. -/
  | number (n : Number)
  /-- A string. -/
  | string (s : String)
  /-- A list. -/
  | list (values : List Value)
  /-- An object. -/
  | object (fields : List (String × Value))

/-- How deep lists and objects may be nested. -/
def maxDepth : Nat := 127

/-- Reads the fields of an object before its end; `done` holds those so far, the last one first. -/
def valueFields (element : Reader Value) :
    Nat → Bool → List (String × Value) → Reader (List (String × Value))
  | 0, _, _ => fail .unfinished
  | fuel + 1, first, done => do
    if ← hasField first then do
      let key ← Json.string
      colon
      let v ← element
      valueFields element fuel false ((key, v) :: done)
    else return done.reverse

/-- Reads a value, with readers for lists and objects whose opening bracket is in place. -/
def valueWith (list object : Reader Value) : Reader Value := do
  match ← peekToken? with
  | none => fail .unfinished
  | some b =>
    if b = byte 'n' then do skip; literal "ull".toList; return .null
    else if b = byte 't' then do skip; literal "rue".toList; return .bool true
    else if b = byte 'f' then do skip; literal "alse".toList; return .bool false
    else if b = byte '-' || isDigit b then return .number (← Json.number)
    else if b = byte '"' then do skip; return .string (← stringBody)
    else if b = byte '[' then list
    else if b = byte '\x7b' then object
    else fail .malformed

/-- Reads a value in which lists and objects are nested at most so deep. -/
def valueWithin : Nat → Reader Value
  | 0 => valueWith (fail .malformed) (fail .malformed)
  | depth + 1 =>
    let element := valueWithin depth
    valueWith
      (do skip; return .list (← listRest element))
      (do
        skip
        return .object (← enclosed '\x7d' do valueFields element ((← get).length + 1) true []))

/-- Reads a value. -/
def value : Reader Value := valueWithin maxDepth

/-- Reads a value that is neither a list nor an object. Of these the opening bracket is taken, and
the closing one if it comes next. -/
def scalar : Reader Value :=
  valueWith (do skip; enclosed ']' (fail .mismatch)) (do skip; enclosed '\x7d' (fail .mismatch))

end Json

end WebLogin
