/-
Taking typed values out of a configuration tree.

A number may be written as a truth value, a truth value as a number, either as a text, and a text
as any of them; what cannot be converted is a type error. A record is a table with its fields, or
a list of them in order, and a choice is the name of a variant, or a table with that name as its
only key. An error says where in the tree it arose.
-/
import WebLogin.Number.Limits
import WebLogin.Number.Shortest
import WebLogin.Settings.Tree

namespace WebLogin

namespace Settings

/-- The kinds of errors of a configuration. -/
inductive ErrorKind where
  /-- The file is not JSON, or no object. -/
  | fileParse
  /-- A value cannot be converted. -/
  | type
  /-- A field is missing. -/
  | notFound
  /-- A value has another form than its record, list or choice. -/
  | message
  deriving DecidableEq, Repr

/-- An error of a configuration. -/
structure LoadError where
  /-- The kind of the error. -/
  kind : ErrorKind
  /-- The way to the value at fault, from the outermost table, if there is one. -/
  path : List Step
  deriving DecidableEq, Repr

namespace LoadError

/-- The error, seen from one step further out. -/
def within (step : Step) (e : LoadError) : LoadError := { e with path := step :: e.path }

/-- The way to a value as text: keys with dots between them, and positions in brackets, with no
dot before or after them. -/
def pathText : List Step → String
  | [] => ""
  | [.key k] => k
  | .key k :: .position i :: rest => k ++ pathText (.position i :: rest)
  | .key k :: rest => k ++ "." ++ pathText rest
  | .position i :: rest => "[" ++ toString i ++ "]" ++ pathText rest

/-- The way to the value at fault as text. -/
def key? (e : LoadError) : Option String := if e.path.isEmpty then none else some (pathText e.path)

end LoadError

/-- The result of taking a value out of a tree. -/
abbrev Decoded (α : Type) := Except LoadError α

/-- The error of a kind at the value itself. -/
def here {α : Type} (kind : ErrorKind) : Decoded α := .error ⟨kind, []⟩

/-- The result of taking a value out of a tree, seen from one step further out. -/
def inside {α : Type} (step : Step) (r : Decoded α) : Decoded α :=
  r.mapError (LoadError.within step)

/-- A value, or a type error at its place. -/
def orType {α : Type} : Option α → Decoded α
  | some a => .ok a
  | none => here .type

/-! ### Scalars -/

/-- The truth value of a text of any case. -/
def boolOfText? (s : String) : Option Bool :=
  let s := s.map Char.toLower
  if ["1", "true", "on", "yes"].contains s then some true
  else if ["0", "false", "off", "no"].contains s then some false
  else none

/-- The truth value of a text of any case that is no digit. -/
def wordOfText? (s : String) : Option Bool :=
  if s = "1" || s = "0" then none else boolOfText? s

/-- The number of a text of at least one decimal digit. -/
def naturalOfChars? (cs : List Char) : Option Nat :=
  if cs.isEmpty || !cs.all isDigitChar then none else some (ofDigitChars cs)

/-- The integer of a text: a sign or none, and digits. -/
def integerOfText? (s : String) : Option Int :=
  match s.toList with
  | '+' :: cs => (naturalOfChars? cs).map Int.ofNat
  | '-' :: cs => (naturalOfChars? cs).map fun n => -Int.ofNat n
  | cs => (naturalOfChars? cs).map Int.ofNat

/-- The integer nearest to a number in a range. -/
def clamp (low high : Int) (x : Binary64) : Int := max low (min high x.round)

/-- The integer of a truth value. -/
def ofBool (b : Bool) : Int := if b then 1 else 0

/-- An integer in a range that a value stands for. -/
def integerIn? (low high : Int) : Tree → Option Int
  | .bool b => some (ofBool b)
  | .int n => if low ≤ n && n ≤ high then some n else none
  | .float x => some (clamp low high x)
  | .text s =>
    match wordOfText? s with
    | some b => some (ofBool b)
    | none => (integerOfText? s).filter fun n => low ≤ n && n ≤ high
  | _ => none

/-- A natural number of 64 bits; a text of it has no minus. -/
def natural (v : Tree) : Decoded Nat :=
  let signed := match v with
    | .text s => s.toList.head? == some '-'
    | _ => false
  orType (if signed then none else (integerIn? 0 (limit64 - 1) v).map Int.toNat)

/-- An integer of 64 bits. -/
def integer (v : Tree) : Decoded Int :=
  orType (integerIn? (-signedLimit64) (signedLimit64 - 1) v)

/-- A truth value. -/
def bool (v : Tree) : Decoded Bool :=
  orType <| match v with
    | .bool b => some b
    | .int n => some (n != 0)
    | .float x => some (!x.isZero)
    | .text s => boolOfText? s
    | _ => none

/-- A text. -/
def text (v : Tree) : Decoded String :=
  orType <| match v with
    | .bool b => some (if b then "true" else "false")
    | .int n => some (toString n)
    | .float x => some x.text
    | .text s => some s
    | _ => none

/-! ### Lists, choices and records -/

/-- The items of a list from a position on. -/
def itemsFrom {α : Type} (item : Tree → Decoded α) : Nat → List Tree → Decoded (List α)
  | _, [] => .ok []
  | i, v :: rest =>
    match inside (.position i) (item v) with
    | .error e => .error e
    | .ok a => (itemsFrom item (i + 1) rest).map (a :: ·)

/-- A list. -/
def listOf {α : Type} (item : Tree → Decoded α) : Tree → Decoded (List α)
  | .list items => itemsFrom item 0 items
  | _ => here .message

/-- A choice between named variants. -/
def choice {α : Type} (ofName? : String → Option α) (v : Tree) : Decoded α :=
  let variant? (name : String) : Decoded α :=
    match ofName? name with
    | some a => .ok a
    | none => here .message
  match v with
  | .text s => variant? s
  | .table [(key, _)] => variant? key
  | _ => here .message

/-- The fields of a record by name. In a record that is given as a list, the step to a field is its
position. -/
structure Source where
  /-- The value of a field and the step to it. -/
  find? : String → Option (Step × Tree)
  /-- The error of a field that is missing. -/
  missing : String → LoadError

/-- The fields of a table, or of a list of fields whose names are given in order. -/
def fieldsOf (names : List String) : Tree → Decoded Source
  | .table entries =>
    .ok ⟨fun name => (entries.lookup name).map (.key name, ·), fun name => ⟨.notFound, [.key name]⟩⟩
  | .list items =>
    .ok ⟨fun name => do
        let i ← names.findIdx? (· == name)
        let v ← items[i]?
        return (.position i, v),
      fun _ => ⟨.message, []⟩⟩
  | _ => here .message

/-- A field that is given, or nothing. -/
def Source.optional {α : Type} (s : Source) (name : String) (decode : Tree → Decoded α) :
    Decoded (Option α) :=
  match s.find? name with
  | none => .ok none
  | some (step, v) => (inside step (decode v)).map some

/-- A field that must be there, once all that are given have been read. -/
def Source.require {α : Type} (s : Source) (name : String) (value : Option α) : Decoded α :=
  match value with
  | some a => .ok a
  | none => .error (s.missing name)

end Settings

end WebLogin
