/-
The JSON form of the values that are stored or sent.

A username, an authority and a session id are strings; a set of authorities is the ascending list
of its members; a principal is an object with the fields `name` and `authorities`, and a session
one with `id` and `principal`, which is null when nobody is logged in. Reading a set takes the
members in any order and more than once.
-/
import WebLogin.Failure
import WebLogin.Json.Print
import WebLogin.Json.Typed
import WebLogin.Session.Data

namespace WebLogin

namespace Username

/-- The name as a JSON text. -/
def toJson (u : Username) : String := Json.quote u.text

/-- Reads a string that is a username. -/
def reader : Json.Reader Username := Json.stringAs fun s => (parse s).toOption

end Username

namespace Authority

/-- The name as a JSON text. -/
def toJson (a : Authority) : String := Json.quote a

/-- Reads a string as the name of an authority. -/
def reader : Json.Reader Authority := Json.string

end Authority

namespace AuthoritySet

/-- The ascending list of the members as a JSON text. -/
def toJson (s : AuthoritySet) : String := Json.printList (s.toList.map Authority.toJson)

/-- Reads a list of authorities as a set. -/
def reader : Json.Reader AuthoritySet := do return ofList (← Json.list Authority.reader)

end AuthoritySet

namespace Principal

/-- The principal as a JSON text. -/
def toJson (p : Principal) : String :=
  Json.printObject [("name", Json.quote p.name), ("authorities", p.authorities.toJson)]

/-- The fields of a principal, over those that have been read. -/
def fields : List (Json.Field (Option String × Option AuthoritySet)) :=
  [{ name := "name", isRead := (·.1.isSome),
     read := fun (_, authorities) => do return (some (← Json.string), authorities) },
   { name := "authorities", isRead := (·.2.isSome),
     read := fun (name, _) => do return (name, some (← AuthoritySet.reader)) }]

/-- Reads a principal. -/
def reader : Json.Reader Principal :=
  Json.record fields (none, none) fun
    | (some name, some authorities) => some ⟨name, authorities⟩
    | _ => none

end Principal

namespace SessionId

/-- The id as a JSON text. -/
def toJson (id : SessionId) : String := Json.quote id.text

/-- Reads a string that is a session id. -/
def reader : Json.Reader SessionId := Json.stringAs parse?

end SessionId

namespace Session

/-- The session as a JSON text. -/
def toJson (s : Session) : String :=
  Json.printObject
    [("id", s.id.toJson), ("principal", Json.printOption Principal.toJson s.principal)]

/-- The fields of a session, over those that have been read. -/
def fields : List (Json.Field (Option SessionId × Option (Option Principal))) :=
  [{ name := "id", isRead := (·.1.isSome),
     read := fun (_, principal) => do return (some (← SessionId.reader), principal) },
   { name := "principal", isRead := (·.2.isSome),
     read := fun (id, _) => do return (id, some (← Json.optional Principal.reader)) }]

/-- Reads a session; a principal that is not given is none. -/
def reader : Json.Reader Session :=
  Json.record fields (none, none) fun
    | (some id, principal) => some ⟨id, principal.getD none⟩
    | _ => none

end Session

namespace Mode

/-- The mode as a JSON text. -/
def toJson (m : Mode) : String := Json.quote m.text

/-- Reads the name of a mode. -/
def reader : Json.Reader Mode := Json.choice ofText?

end Mode

namespace FailureReason

/-- The reason as a JSON text. -/
def toJson (r : FailureReason) : String := Json.quote r.text

/-- Reads the name of a reason. -/
def reader : Json.Reader FailureReason := Json.choice ofText?

end FailureReason

end WebLogin
