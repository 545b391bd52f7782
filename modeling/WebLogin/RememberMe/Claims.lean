/-
The claims of a remember-me token: whom it stands for, what that party may do, and until when.
-/
import WebLogin.Codec

namespace WebLogin

/-- What a remember-me token says. -/
structure Claims where
  /-- The name of the party. -/
  subject : String
  /-- What the party may do, as the token lists it. -/
  authorities : List Authority
  /-- The last second at which the token is meant to be used, counted from the epoch. -/
  expiry : Nat
  deriving DecidableEq, Repr

namespace Claims

/-- The claims as a JSON text. -/
def toJson (c : Claims) : String :=
  Json.printObject
    [("sub", Json.quote c.subject),
     ("authorities", Json.printList (c.authorities.map Authority.toJson)),
     ("exp", Json.printNat c.expiry)]

/-- The fields of the claims, over those that have been read. -/
def fields : List (Json.Field (Option String × Option (List Authority) × Option Nat)) :=
  [{ name := "sub", isRead := (·.1.isSome),
     read := fun (_, rest) => do return (some (← Json.string), rest) },
   { name := "authorities", isRead := (·.2.1.isSome),
     read := fun (sub, _, exp) => do return (sub, some (← Json.list Authority.reader), exp) },
   { name := "exp", isRead := (·.2.2.isSome),
     read := fun (sub, authorities, _) => do
      return (sub, authorities, some (← Json.natural)) }]

/-- Reads claims; those that are not known are passed over. -/
def reader : Json.Reader Claims :=
  Json.record fields (none, none, none) fun
    | (some sub, some authorities, some exp) => some ⟨sub, authorities, exp⟩
    | _ => none

/-- The principal that the claims stand for. -/
def principal (c : Claims) : Principal := .ofList c.subject c.authorities

end Claims

end WebLogin
