/-
What a session store keeps under an id: the id itself and the principal logged in, if any.
-/
import WebLogin.Principal
import WebLogin.Session.Id

namespace WebLogin

/-- The content of a session. -/
structure Session where
  /-- The id that the session is stored under. -/
  id : SessionId
  /-- Who is logged in with the session. -/
  principal : Option Principal
  deriving DecidableEq

namespace Session

/-- A session with nobody logged in. -/
def fresh (id : SessionId) : Session := ⟨id, none⟩

end Session

/-- Where the principal of a login is kept between requests. -/
inductive Mode where
  /-- In a session that the request names. -/
  | perSession
  /-- Nowhere: each request stands alone. -/
  | perClient
  deriving DecidableEq, Repr

namespace Mode

/-- The mode of a per-client flag. -/
def ofPerClient (perClient : Bool) : Mode := if perClient then .perClient else .perSession

/-- Whether each request stands alone. -/
def isPerClient : Mode → Bool
  | perSession => false
  | perClient => true

/-- The mode of a login that nobody configured. -/
def default : Mode := .perSession

/-- The name of a mode in settings and messages. -/
def text : Mode → String
  | perSession => "per_session"
  | perClient => "per_client"

/-- The mode of a name. -/
def ofText? (s : String) : Option Mode :=
  [perSession, perClient].find? (·.text == s)

end Mode

end WebLogin
