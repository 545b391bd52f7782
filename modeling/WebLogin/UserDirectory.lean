/-
A directory of users, and logging in by it.

The directory keeps, for each name, the record that was added last: a password in its kept form,
authorities, and whether the account is open. A credential is checked against that record, the
password before the state of the account.
-/
import WebLogin.Login.Hooks
import WebLogin.Password.Scheme
import WebLogin.Principal

namespace WebLogin

/-- What a directory keeps about a user. -/
structure UserRecord where
  /-- The kept form of the password. -/
  passwordHash : String
  /-- What the user may do. -/
  authorities : List Authority
  /-- Whether the account is open. -/
  enabled : Bool
  deriving DecidableEq, Repr

/-- Users by name. -/
structure UserDirectory where
  /-- The records, one for each name. -/
  records : List (String × UserRecord) := []
  deriving Repr

namespace UserDirectory

/-- The record of a name. -/
def find? (d : UserDirectory) (name : String) : Option UserRecord := d.records.lookup name

/-- The directory with a record for a name, in place of an earlier one. -/
def insert (d : UserDirectory) (name : String) (r : UserRecord) : UserDirectory :=
  ⟨(name, r) :: d.records.filter fun entry => entry.1 != name⟩

/-- How many names have a record. -/
def size (d : UserDirectory) : Nat := d.records.length

/-- A user as they are signed up: the password is still in clear. -/
structure NewUser where
  /-- The name. -/
  name : String
  /-- The password. -/
  password : String
  /-- What the user may do. -/
  authorities : List Authority := []
  /-- Whether the account is open. -/
  enabled : Bool := true
  deriving DecidableEq, Repr

/-- Signs up a user, with the password kept under a scheme and a salt. -/
def addUser (scheme : PasswordScheme) (d : UserDirectory) (salt : List UInt8) (u : NewUser) :
    UserDirectory :=
  d.insert u.name ⟨scheme.hash salt u.password, u.authorities, u.enabled⟩

/-- The identity of a credential, or why there is none. -/
def verify (scheme : PasswordScheme) (d : UserDirectory) (c : Credential) :
    Except VerificationError VerifiedIdentity :=
  match d.find? c.username.text with
  | none => .error .unknownIdentity
  | some r =>
    match scheme.check r.passwordHash c.password with
    | .error .mismatch => .error .badCredential
    | .error (.unexpected text) => .error (.other text)
    | .ok () =>
      if r.enabled then .ok ⟨c.username.text, .ofList r.authorities⟩
      else .error .disabled

/-- The verifier that answers from a directory. -/
def verifier {m : Type → Type} [Monad m] (scheme : PasswordScheme) (d : UserDirectory) :
    Verifier m where
  verify c := return d.verify scheme c

end UserDirectory

end WebLogin
