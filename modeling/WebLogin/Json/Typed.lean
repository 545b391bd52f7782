/-
Readers for JSON values of a wanted form.

Each reader takes one value from the text. The first fault decides: a text can be malformed, end
too early, or hold a well-formed value of another form, and whichever shows first is reported. A
record is an object with named fields, or a list of the fields in order. After a fault inside a
list or an object its closing bracket is still taken, if it comes next.
-/
import WebLogin.Json.Token

namespace WebLogin

namespace Json

/-- Reports a value of another form than wanted. A scalar is read first, so that one that is
malformed or cut short is reported as that. -/
def reject {α : Type} : Reader α := do
  match ← peek? with
  | none => fail .malformed
  | some b =>
    if b = byte 'n' then do skip; literal "ull".toList; fail .mismatch
    else if b = byte 't' then do skip; literal "rue".toList; fail .mismatch
    else if b = byte 'f' then do skip; literal "alse".toList; fail .mismatch
    else if b = byte '-' || isDigit b then do let _ ← number; fail .mismatch
    else if b = byte '"' then do skip; let _ ← stringBody; fail .mismatch
    else if b = byte '[' || b = byte '\x7b' then fail .mismatch
    else fail .malformed

/-- Reads a value that must start with a certain byte. -/
def startingWith {α : Type} (c : Char) (body : Reader α) : Reader α := do
  match ← peekToken? with
  | none => fail .unfinished
  | some b => if b = byte c then do skip; body else reject

/-- Reads a string. -/
def string : Reader String := startingWith '"' stringBody

/-- Reads a string that stands for a value of another kind. -/
def stringAs {α : Type} (decode? : String → Option α) : Reader α := do
  match decode? (← string) with
  | some a => return a
  | none => fail .mismatch

/-- Reads an integer from 0 to `2 ^ 64 - 1`. -/
def natural : Reader Nat := do
  match ← peekToken? with
  | none => fail .unfinished
  | some b =>
    if b = byte '-' || isDigit b then do
      match ← number with
      | .nat n => return n
      | _ => fail .mismatch
    else reject

/-- Reads a value or the name for none. -/
def optional {α : Type} (value : Reader α) : Reader (Option α) := do
  if (← peekToken?) = some (byte 'n') then do
    skip
    literal "ull".toList
    return none
  else return some (← value)

/-! ### Passing over a value -/

/-- Passes over any number of nested values. `enclosing` lists the closing bytes of the lists and
objects that are still open, the innermost first; the flag says whether a value must come next, or
else what may follow one. `fuel` bounds the number of tokens. -/
def skipNested : Nat → List UInt8 → Bool → Reader Unit
  | 0, _, _ => fail .unfinished
  | fuel + 1, enclosing, true => do
    match ← peekToken? with
    | none => fail .unfinished
    | some b =>
      if b = byte 'n' then do skip; literal "ull".toList; skipNested fuel enclosing false
      else if b = byte 't' then do skip; literal "rue".toList; skipNested fuel enclosing false
      else if b = byte 'f' then do skip; literal "alse".toList; skipNested fuel enclosing false
      else if b = byte '-' || isDigit b then do skipNumber; skipNested fuel enclosing false
      else if b = byte '"' then do
        skip
        skipString ((← get).length + 1)
        skipNested fuel enclosing false
      else if b = byte '[' then do
        skip
        match ← peekToken? with
        | none => fail .unfinished
        | some e => skipNested fuel (byte ']' :: enclosing) (e ≠ byte ']')
      else if b = byte '\x7b' then do
        skip
        match ← peekToken? with
        | none => fail .unfinished
        | some e =>
          if e = byte '\x7d' then skipNested fuel (byte '\x7d' :: enclosing) false
          else do skipKey; skipNested fuel (byte '\x7d' :: enclosing) true
      else fail .malformed
  | _ + 1, [], false => return
  | fuel + 1, close :: outer, false => do
    match ← peekToken? with
    | none => fail .unfinished
    | some b =>
      if b = close then do skip; skipNested fuel outer false
      else if b = byte ',' then do
        skip
        if close = byte '\x7d' then skipKey
        skipNested fuel (close :: outer) true
      else fail .malformed
where
  /-- Passes over the key of a field and the colon after it. -/
  skipKey : Reader Unit := do
    match ← peekToken? with
    | none => fail .unfinished
    | some b =>
      if b ≠ byte '"' then fail .malformed
      else
        skip
        skipString ((← get).length + 1)
        match ← peekToken? with
        | none => fail .unfinished
        | some b => if b = byte ':' then skip else fail .malformed

/-- Passes over one value of any form. -/
def skipValue : Reader Unit := do
  skipNested (2 * (← get).length + 2) [] true

/-! ### Lists and records -/

/-- Whether one more element comes before the end of a list. `first` says that none came yet. -/
def hasElement (first : Bool) : Reader Bool := do
  match ← peekToken? with
  | none => fail .unfinished
  | some b =>
    if b = byte ']' then return false
    else if first then return true
    else if b = byte ',' then do
      skip
      match ← peekToken? with
      | none => fail .unfinished
      | some e => if e = byte ']' then fail .malformed else return true
    else fail .malformed

/-- Takes the closing bracket of a list or an object. A comma in place of that of a list is taken
too before the reader fails. -/
def closing (c : Char) : Reader Unit := do
  match ← peekToken? with
  | none => fail .unfinished
  | some b =>
    if b = byte c then skip
    else do
      if b = byte ',' && c = ']' then skip
      fail .malformed

/-- Reads what stands between brackets, after the opening one and with the closing one. -/
def enclosed {α : Type} (c : Char) (content : Reader α) : Reader α := do
  let a ← attempt content
  let close ← attempt (closing c)
  match a, close with
  | .ok a, .ok () => return a
  | .error f, _ => fail f
  | _, .error f => fail f

/-- Reads the elements of a list before its end; `done` holds those so far, the last one first. -/
def elements {α : Type} (element : Reader α) : Nat → Bool → List α → Reader (List α)
  | 0, _, _ => fail .unfinished
  | fuel + 1, first, done => do
    if ← hasElement first then do
      let a ← element
      elements element fuel false (a :: done)
    else return done.reverse

/-- Reads a list after its opening bracket. -/
def listRest {α : Type} (element : Reader α) : Reader (List α) :=
  enclosed ']' do elements element ((← get).length + 1) true []

/-- Reads a list. -/
def list {α : Type} (element : Reader α) : Reader (List α) := startingWith '[' (listRest element)

/-- A field of a record under construction. -/
structure Field (σ : Type) where
  /-- The name of the field. -/
  name : String
  /-- Whether the field has been read. -/
  isRead : σ → Bool
  /-- Reads the value of the field. -/
  read : σ → Reader σ

/-- Whether one more field comes before the end of an object. `first` says that none came yet. -/
def hasField (first : Bool) : Reader Bool := do
  match ← peekToken? with
  | none => fail .unfinished
  | some b =>
    if b = byte '\x7d' then return false
    else if first then
      if b = byte '"' then return true else fail .malformed
    else if b = byte ',' then do
      skip
      match ← peekToken? with
      | none => fail .unfinished
      | some e => if e = byte '"' then return true else fail .malformed
    else fail .malformed

/-- Takes the colon after a key. -/
def colon : Reader Unit := do
  match ← peekToken? with
  | none => fail .unfinished
  | some b => if b = byte ':' then skip else fail .malformed

/-- Reads the fields of an object in any order. A field that is not wanted is passed over, one
that comes twice is a mismatch. -/
def objectFields {σ : Type} (fields : List (Field σ)) : Nat → Bool → σ → Reader σ
  | 0, _, _ => fail .unfinished
  | fuel + 1, first, s => do
    if ← hasField first then do
      let key ← string
      match fields.find? (·.name == key) with
      | none => do
        colon
        skipValue
        objectFields fields fuel false s
      | some f => do
        if f.isRead s then fail .mismatch
        else do
          colon
          let s ← f.read s
          objectFields fields fuel false s
    else return s

/-- Reads the fields of a record from a list, in their order. -/
def listFields {σ : Type} : List (Field σ) → Bool → σ → Reader σ
  | [], _, s => return s
  | f :: rest, first, s => do
    if ← hasElement first then do
      let s ← f.read s
      listFields rest false s
    else fail .mismatch

/-- Reads a record. `start` has no field read, and `finish` gives the record of all that were
read unless one is missing. -/
def record {σ α : Type} (fields : List (Field σ)) (start : σ) (finish : σ → Option α) :
    Reader α := do
  let complete (s : σ) : Reader α :=
    match finish s with
    | some a => return a
    | none => fail .mismatch
  match ← peekToken? with
  | none => fail .unfinished
  | some b =>
    if b = byte '[' then do
      skip
      enclosed ']' do complete (← listFields fields true start)
    else if b = byte '\x7b' then do
      skip
      enclosed '\x7d' do complete (← objectFields fields ((← get).length + 1) true start)
    else reject

/-- Reads a value that is one of some names, given as a string or as the only key of an object
whose value is null. -/
def choice {α : Type} (ofName? : String → Option α) : Reader α := do
  match ← peekToken? with
  | none => fail .unfinished
  | some b =>
    if b = byte '"' then stringAs ofName?
    else if b = byte '\x7b' then do
      skip
      let a ← stringAs ofName?
      colon
      match ← peekToken? with
      | none => fail .unfinished
      | some e =>
        if e = byte 'n' then do skip; literal "ull".toList
        else reject
      match ← peekToken? with
      | none => fail .unfinished
      | some e =>
        if e = byte '\x7d' then do
          skip
          return a
        else fail .malformed
    else fail .malformed

/-- Reads a text that holds one value and blanks around it. -/
def ofBytes {α : Type} (value : Reader α) (text : List UInt8) : Except Fault α :=
  match value.run text with
  | .ok a rest => if (rest.dropWhile isBlank).isEmpty then .ok a else .error .malformed
  | .error f _ => .error f

/-- Reads a text that holds one value. -/
def ofText {α : Type} (value : Reader α) (text : String) : Except Fault α :=
  ofBytes value (Utf8.bytes text)

end Json

end WebLogin
