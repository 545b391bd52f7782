/-
The collaborators of a login that are not session stores: who checks credentials, and who
remembers logins beyond a session.
-/
import WebLogin.Context
import WebLogin.Failure

namespace WebLogin

/-- Somebody who checks credentials. -/
structure Verifier (m : Type → Type) where
  /-- The identity of a credential, or why there is none. -/
  verify : Credential → m (Except VerificationError VerifiedIdentity)

/-- Somebody who remembers logins. -/
structure RememberMe (m : Type → Type) where
  /-- The principal that a request brings with it, if any. -/
  autoLogin : RequestContext → m (RequestContext × Option Principal)
  /-- Is told of a login. -/
  loginSuccess : RequestContext → Principal → m RequestContext
  /-- Is told of a login that failed. -/
  loginFail : RequestContext → m RequestContext

/-- Remembers nothing. -/
def RememberMe.null {m : Type → Type} [Monad m] : RememberMe m where
  autoLogin ctx := return (ctx, none)
  loginSuccess ctx _ := return ctx
  loginFail ctx := return ctx

end WebLogin
