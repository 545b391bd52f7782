/-
The text form of a password hash.

A record is a text of fields with dollar signs before them: the algorithm, the version, the
parameters, the salt and the hash. All but the algorithm may be missing. `HashRecord.parse?` reads
the fields with the limits of the format; whether their values make sense to an algorithm is not
its business.
-/
import WebLogin.Number.Limits
import WebLogin.Text.Base64
import WebLogin.Text.Split

namespace WebLogin

/-- The fields of the text form of a password hash. -/
structure HashRecord where
  /-- The name of the algorithm. -/
  algorithm : String
  /-- The version of the algorithm. -/
  version : Option Nat
  /-- The parameters by name, in order. -/
  params : List (String × String)
  /-- The salt, as it is written. -/
  salt : Option String
  /-- The hash. -/
  hash : Option (List UInt8)
  deriving DecidableEq, Repr

namespace HashRecord

/-- Whether a text may be the name of an algorithm or a parameter. -/
def isName (cs : List Char) : Bool :=
  !cs.isEmpty && cs.length ≤ 32 &&
    cs.all fun c => ('a' ≤ c && c ≤ 'z') || ('0' ≤ c && c ≤ '9') || c == '-'

/-- Whether a text may be the value of a parameter. -/
def isValue (cs : List Char) : Bool :=
  cs.length ≤ 64 &&
    cs.all fun c => ('a' ≤ c && c ≤ 'z') || ('A' ≤ c && c ≤ 'Z') || ('0' ≤ c && c ≤ '9') ||
      c == '/' || c == '+' || c == '.' || c == '-'

/-- The number that a value writes: digits without a leading zero, less than `2 ^ 32`. -/
def decimal? (cs : List Char) : Option Nat :=
  if cs.isEmpty || !cs.all (fun c => '0' ≤ c && c ≤ '9') then none
  else if cs.head? = some '0' && 1 < cs.length then none
  else
    let n := cs.foldl (fun n c => n * 10 + (c.toNat - '0'.toNat)) 0
    if n < limit32 then some n else none

/-- A parameter: a name and a value with an equals sign between them. -/
def param? (cs : List Char) : Option (String × String) :=
  match splitOn '=' cs with
  | [name, value] =>
    if isName name && isValue value then some (String.ofList name, String.ofList value) else none
  | _ => none

/-- Parameters with commas between them. -/
def params? (cs : List Char) : Option (List (String × String)) :=
  if cs.length ≤ 127 then (splitOn ',' cs).mapM param? else none

/-- Whether a text may be a salt. -/
def isSalt (cs : List Char) : Bool := 4 ≤ cs.length && isValue cs

/-- A hash of 10 to 64 bytes. -/
def hash? (cs : List Char) : Option (List UInt8) :=
  match Base64.decode? Base64.standard cs with
  | some bytes => if 10 ≤ bytes.length && bytes.length ≤ 64 then some bytes else none
  | none => none

/-- Whether a field holds a version: it starts with its sign and has no comma. -/
def isVersion (cs : List Char) : Bool := cs.take 2 == ['v', '='] && !cs.contains ','

/-- Takes the version, if the next field is one. -/
def takeVersion : List (List Char) → Option (Option Nat × List (List Char))
  | [] => some (none, [])
  | field :: rest =>
    if isVersion field then
      if isValue (field.drop 2) then (decimal? (field.drop 2)).map fun v => (some v, rest)
      else none
    else some (none, field :: rest)

/-- Takes the parameters, if the next field has an equals sign. -/
def takeParams : List (List Char) → Option (List (String × String) × List (List Char))
  | [] => some ([], [])
  | field :: rest =>
    if field.contains '=' then (params? field).map (·, rest) else some ([], field :: rest)

/-- The salt and the hash of the last fields. -/
def saltAndHash : List (List Char) → Option (Option String × Option (List UInt8))
  | [] => some (none, none)
  | [salt] => if isSalt salt then some (some (String.ofList salt), none) else none
  | [salt, hash] =>
    if isSalt salt then (hash? hash).map fun bytes => (some (String.ofList salt), some bytes)
    else none
  | _ => none

/-- Reads the text form of a password hash. -/
def parse? (text : String) : Option HashRecord := do
  let [] :: algorithm :: fields := splitOn '$' text.toList | none
  if isName algorithm then
    let (version, fields) ← takeVersion fields
    let (params, fields) ← takeParams fields
    let (salt, hash) ← saltAndHash fields
    return { algorithm := String.ofList algorithm, version, params, salt, hash }
  else none

end HashRecord

end WebLogin
