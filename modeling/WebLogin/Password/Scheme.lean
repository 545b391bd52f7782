/-
Hashing and checking passwords.

A `PasswordScheme` makes a text from a password and a salt, and checks a password against such a
text. `PasswordScheme.argon2` writes hashes of one fixed cost, and checks against any text that
names a variant of Argon2, with the cost that the text gives.
-/
import WebLogin.Failure
import WebLogin.Hash.Argon2
import WebLogin.Password.Record
import WebLogin.Text.Utf8

namespace WebLogin

/-- A way of keeping passwords. -/
structure PasswordScheme where
  /-- The text that is kept for a password, with a salt. -/
  hash : List UInt8 → String → String
  /-- Checks a password against a kept text. -/
  check : String → String → Except PasswordError Unit

namespace PasswordHash

open Argon2

/-- The costs that a text may leave out. -/
def defaultParams : Params :=
  { variant := .id, version := 19, memory := 19456, passes := 2, lanes := 1 }

/-- The costs of the hashes that are made here. -/
def ownParams : Params :=
  { variant := .id, version := 19, memory := 15000, passes := 2, lanes := 1 }

/-- The length of the hashes that are made here, in bytes. -/
def ownLength : Nat := 32

/-- The variant of a name. -/
def variant? : String → Option Variant
  | "argon2d" => some .d
  | "argon2i" => some .i
  | "argon2id" => some .id
  | _ => none

/-- Whether a version is known. -/
def isVersion (v : Nat) : Bool := v == 16 || v == 19

/-- Takes one parameter of a text into account. -/
def setParam (p : Params) : String × String → Option Params
  | ("m", v) => (HashRecord.decimal? v.toList).map ({ p with memory := · })
  | ("t", v) => (HashRecord.decimal? v.toList).map ({ p with passes := · })
  | ("p", v) => (HashRecord.decimal? v.toList).map ({ p with lanes := · })
  | ("keyid", v) =>
    (Base64.decode? Base64.standard v.toList).bind fun id =>
      if id.length ≤ 8 then some p else none
  | ("data", v) =>
    (Base64.decode? Base64.standard v.toList).bind fun data =>
      if data.length ≤ 32 then some { p with data } else none
  | _ => none

/-- The least number of lanes that is too large. -/
def laneLimit : Nat := 16777216

/-- Whether the costs can be met: at least one pass and one lane, and eight blocks a lane. -/
def isFeasible (p : Params) : Bool :=
  8 ≤ p.memory && 1 ≤ p.passes && 1 ≤ p.lanes && p.lanes < laneLimit && 8 * p.lanes ≤ p.memory

/-- The costs of a record, if they are complete and can be met. -/
def params? (r : HashRecord) : Option Params := do
  let variant ← variant? r.algorithm
  let version := r.version.getD defaultParams.version
  let p ← r.params.foldlM setParam { defaultParams with variant, version }
  if isVersion version && isFeasible p then some p else none

/-- The hash of a password with the salt and the cost of a record. -/
def recompute? (r : HashRecord) (salt : String) (size : Nat) (password : String) :
    Option (List UInt8) := do
  let p ← params? r
  let bytes ← Base64.decode? Base64.standard salt.toList
  if 8 ≤ bytes.length then some (Argon2.hash p (Utf8.bytes password) bytes size) else none

/-- The error of a text that cannot be checked against. -/
def unusable : PasswordError := .unexpected "unusable password hash"

/-- Checks a password against a text. One without a salt or a hash fits no password. -/
def check (text password : String) : Except PasswordError Unit :=
  match HashRecord.parse? text with
  | none => .error unusable
  | some r =>
    match r.salt, r.hash with
    | some salt, some expected =>
      match recompute? r salt expected.length password with
      | none => .error unusable
      | some computed => if computed = expected then .ok () else .error .mismatch
    | _, _ => .error .mismatch

/-- The text before the salt. -/
def head : String :=
  "$argon2id$v=" ++ toString ownParams.version ++ "$m=" ++ toString ownParams.memory ++ ",t=" ++
    toString ownParams.passes ++ ",p=" ++ toString ownParams.lanes

/-- The text that is kept for a password. -/
def make (salt : List UInt8) (password : String) : String :=
  let part (bytes : List UInt8) : String := String.ofList (Base64.encode Base64.standard bytes)
  head ++ "$" ++ part salt ++ "$" ++
    part (Argon2.hash ownParams (Utf8.bytes password) salt ownLength)

end PasswordHash

/-- Passwords kept as Argon2 hashes. -/
def PasswordScheme.argon2 : PasswordScheme := ⟨PasswordHash.make, PasswordHash.check⟩

end WebLogin
