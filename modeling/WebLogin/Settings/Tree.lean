/-
Configuration values and how one layer of them is laid over another.

A configuration is a tree of tables. A layer sets values at paths; a table that is laid over a
table is merged with it entry by entry, and anything else takes the place of what was there. A
path names a key of the outermost table and then goes on by keys and positions, as in
`verifier.users[0].name`; a name that has not that form is a key as a whole.
-/
import WebLogin.Json.Value
import WebLogin.Number.Limits

namespace WebLogin

namespace Settings

/-- A configuration value. -/
inductive Tree where
  /-- No value. -/
  | nil
  /-- A truth value. -/
  | bool (b : Bool)
  /-- An integer. -/
  | int (n : Int)
  /-- Any other number. -/
  | float (x : Binary64)
  /-- A text. -/
  | text (s : String)
  /-- Values by position. -/
  | list (items : List Tree)
  /-- Values by key. -/
  | table (entries : List (String × Tree))

/-- The table without entries. -/
def emptyTable : Tree := .table []

/-- Sets the entry of a key. -/
def setKey (key : String) (value : Tree) : List (String × Tree) → List (String × Tree)
  | [] => [(key, value)]
  | (k, v) :: rest => if k = key then (key, value) :: rest else (k, v) :: setKey key value rest

namespace Tree

/-- The entries of a table; another value has none. -/
def entries : Tree → List (String × Tree)
  | table es => es
  | _ => []

/-- The items of a list; another value has none. -/
def items : Tree → List Tree
  | list vs => vs
  | _ => []

mutual

/-- Lays a value over another: a table is merged into it, anything else replaces it. -/
def overlay (old : Tree) : Tree → Tree
  | table new => table (overlayEntries old.entries new)
  | v => v

/-- Lays the entries of a table over others, one after the other. -/
def overlayEntries (old : List (String × Tree)) : List (String × Tree) → List (String × Tree)
  | [] => old
  | (key, value) :: rest =>
    overlayEntries (setKey key (overlay ((old.lookup key).getD nil) value) old) rest

end

mutual

/-- The configuration value of a JSON value; of entries with one key the last one counts. -/
def ofJson : Json.Value → Tree
  | .null => nil
  | .bool b => bool b
  | .number (.nat n) => int n
  | .number (.negative n) => int (-n)
  | .number (.binary x) => float x
  | .string s => text s
  | .list values => list (ofJsonList values)
  | .object fields => table (ofJsonFields fields [])

/-- The configuration values of a list. -/
def ofJsonList : List Json.Value → List Tree
  | [] => []
  | v :: rest => ofJson v :: ofJsonList rest

/-- The entries of an object, after others. -/
def ofJsonFields : List (String × Json.Value) → List (String × Tree) → List (String × Tree)
  | [], done => done
  | (key, v) :: rest, done => ofJsonFields rest (setKey key (ofJson v) done)

end

end Tree

/-! ### Paths -/

/-- A step of a path below its first key. -/
inductive Step where
  /-- To the entry of a key. -/
  | key (k : String)
  /-- To a position, counted from the end if it is negative. -/
  | position (i : Int)
  deriving DecidableEq, Repr

/-- A place in a configuration. -/
structure Path where
  /-- The key of the outermost table. -/
  root : String
  /-- The steps below it. -/
  steps : List Step
  deriving DecidableEq, Repr

/-- Changes the item at a position. Missing items before it are added, without a value, at the end
or, for a position before the start, at the start. -/
def updateAt (i : Int) (f : Tree → Tree) (items : List Tree) : List Tree :=
  let n := items.length
  if 0 ≤ i then
    let filled := items ++ List.replicate (i.toNat + 1 - n) Tree.nil
    filled.modify i.toNat f
  else
    let back := (-i).toNat
    if back ≤ n then items.modify (n - back) f
    else (List.replicate (back - n) Tree.nil ++ items).modify 0 f

/-- Changes the value at the end of some steps; a value on the way that has no such place is
replaced by a table or a list. -/
def updateBelow (f : Tree → Tree) : List Step → Tree → Tree
  | [], v => f v
  | .key k :: rest, v =>
    let es := v.entries
    .table (setKey k (updateBelow f rest ((es.lookup k).getD .nil)) es)
  | .position i :: rest, v => .list (updateAt i (updateBelow f rest) v.items)

/-- Lays a value over what is at a path. -/
def Path.set (p : Path) (value : Tree) (config : Tree) : Tree :=
  updateBelow (fun old => old.overlay value) (.key p.root :: p.steps) config

/-- Whether a character may stand in a key of a path. -/
def isKeyChar (c : Char) : Bool :=
  ('a' ≤ c && c ≤ 'z') || ('A' ≤ c && c ≤ 'Z') || ('0' ≤ c && c ≤ '9') || c == '_' || c == '-'

/-- The number of some decimal digits. -/
def ofDigitChars (cs : List Char) : Nat :=
  cs.foldl (fun n c => n * 10 + (c.toNat - '0'.toNat)) 0

/-- Whether a character is a decimal digit. -/
def isDigitChar (c : Char) : Bool := '0' ≤ c && c ≤ '9'

/-- Whether a character is a space or a tab. -/
def isSpace (c : Char) : Bool := c == ' ' || c == '\t'

/-- The position between two brackets: blanks, a minus or not, digits, and blanks. -/
def position? (cs : List Char) : Option Int :=
  let inner := ((cs.dropWhile isSpace).reverse.dropWhile isSpace).reverse
  let (minus, ds) := match inner with
    | '-' :: ds => (true, ds)
    | ds => (false, ds)
  if ds.isEmpty || !ds.all isDigitChar then none
  else
    let n : Int := ofDigitChars ds
    let i := if minus then -n else n
    if -signedLimit64 ≤ i && i < signedLimit64 then some i else none

/-- The steps that a text writes; `fuel` bounds their number. -/
def steps? : Nat → List Char → Option (List Step)
  | _, [] => some []
  | 0, _ => none
  | fuel + 1, '.' :: cs =>
    let k := cs.takeWhile isKeyChar
    if k.isEmpty then none
    else (steps? fuel (cs.dropWhile isKeyChar)).map (.key (String.ofList k) :: ·)
  | fuel + 1, '[' :: cs =>
    match cs.dropWhile (· != ']') with
    | [] => none
    | _ :: rest => do
      let i ← position? (cs.takeWhile (· != ']'))
      return .position i :: (← steps? fuel rest)
  | _ + 1, _ => none

/-- The path that a name writes. -/
def Path.ofName (name : String) : Path :=
  let cs := name.toList
  let root := cs.takeWhile isKeyChar
  match root, steps? cs.length (cs.dropWhile isKeyChar) with
  | _ :: _, some steps => ⟨String.ofList root, steps⟩
  | _, _ => ⟨name, []⟩

/-- Lays a layer of named values over a configuration, one after the other. -/
def applyLayer (layer : List (String × Tree)) (config : Tree) : Tree :=
  layer.foldl (fun config (name, value) => (Path.ofName name).set value config) config

end Settings

end WebLogin
