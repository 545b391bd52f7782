/-
The JSON bodies of requests.

A body is read only if the content type says that it is JSON. It must then be well-formed and of
the wanted form, and what is wrong first decides how it is rejected.
-/
import WebLogin.Authority
import WebLogin.Http.MediaType
import WebLogin.Http.Message
import WebLogin.Json.Typed

namespace WebLogin

namespace Http

/-- Why a body is rejected. -/
inductive BodyFault where
  /-- The content type does not say JSON. -/
  | notJson
  /-- The body is too long. -/
  | tooLong
  /-- The body is not JSON, or something follows after it. -/
  | malformed
  /-- The body is JSON of another form than wanted. -/
  | mismatch
  deriving DecidableEq, Repr

namespace BodyFault

/-- The status of the response. -/
def status : BodyFault → Nat
  | notJson => 415
  | tooLong => 413
  | malformed => 400
  | mismatch => 422

/-- The text that reports the fault. -/
def message : BodyFault → String
  | notJson => "Expected request with \x60Content-Type: application/json\x60"
  | tooLong => "Failed to buffer the request body: length limit exceeded"
  | malformed => "Failed to parse the request body as JSON"
  | mismatch => "Failed to deserialize the JSON body into the target type"

/-- The response that rejects the body. -/
def response (f : BodyFault) : Response := .text f.status f.message

end BodyFault

/-- How many bytes a body may have. -/
def longestBody : Nat := 2 * 1024 * 1024

/-- Reads the body of a request. -/
def readBody {α : Type} (reader : Json.Reader α) (r : Request) : Except BodyFault α :=
  if !(header? "content-type" r.headers).any MediaType.isJson then .error .notJson
  else if longestBody < (Utf8.bytes r.body).length then .error .tooLong
  else
    match Json.ofText reader r.body with
    | .ok a => .ok a
    | .error .mismatch => .error .mismatch
    | .error _ => .error .malformed

/-- What a client sends to log in. -/
structure LoginForm where
  /-- The name. -/
  username : String
  /-- The password. -/
  password : String
  deriving DecidableEq, Repr

namespace LoginForm

/-- The fields, over those that have been read. -/
def fields : List (Json.Field (Option String × Option String)) :=
  [{ name := "username", isRead := (·.1.isSome),
     read := fun (_, password) => do return (some (← Json.string), password) },
   { name := "password", isRead := (·.2.isSome),
     read := fun (username, _) => do return (username, some (← Json.string)) }]

/-- Reads a login form. -/
def reader : Json.Reader LoginForm :=
  Json.record fields (none, none) fun
    | (some username, some password) => some ⟨username, password⟩
    | _ => none

end LoginForm

/-- What a client sends to learn whether it holds one of some roles. -/
structure RolesForm where
  /-- The roles. -/
  roles : List Authority
  deriving DecidableEq, Repr

namespace RolesForm

/-- The field, over what has been read. -/
def fields : List (Json.Field (Option (List Authority))) :=
  [{ name := "roles", isRead := (·.isSome),
     read := fun _ => do return some (← Json.list Json.string) }]

/-- Reads a list of roles. -/
def reader : Json.Reader RolesForm :=
  Json.record fields none fun roles => roles.map RolesForm.mk

end RolesForm

end Http

end WebLogin
