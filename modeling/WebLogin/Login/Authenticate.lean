/-
One attempt to log in.

The name must be a username, the verifier must accept the credential, the principal is bound to
the request and its session, and the session strategy must agree. A principal that was bound is
unbound again when the attempt fails after that. Remember-me is told once of how it went.
-/
import WebLogin.Login.Hooks
import WebLogin.Session.Strategy

namespace WebLogin

/-- Those who take part in a login. -/
structure Authentication (m : Type → Type) where
  /-- Who checks the credential. -/
  verifier : Verifier m
  /-- Who binds the principal. -/
  binder : SessionBinder m
  /-- What happens to the session. -/
  strategy : SessionStrategy m
  /-- Who remembers the login. -/
  rememberMe : RememberMe m

namespace Authentication

variable {m : Type → Type} [Monad m]

/-- Tells remember-me that the login failed, and fails. -/
def fail (a : Authentication m) (ctx : RequestContext) (f : LoginFailure) :
    m (Step LoginFailure Principal) := do
  return (← a.rememberMe.loginFail ctx, .error f)

/-- Binds a principal and asks the session strategy. -/
def bind (a : Authentication m) (ctx : RequestContext) (p : Principal) :
    m (Step LoginFailure Unit) := do
  match ← a.binder.bind ctx p with
  | (ctx, .error e) => return (ctx, .error ⟨.other, e.message⟩)
  | (ctx, .ok ()) =>
    let (ctx, result) ← a.strategy.onAuthentication ctx p
    return (ctx, result.mapError fun e => ⟨.other, e.message⟩)

/-- Logs in the principal of an identity. -/
def complete (a : Authentication m) (ctx : RequestContext) (p : Principal) :
    m (Step LoginFailure Principal) := do
  match ← a.bind ctx p with
  | (ctx, .ok ()) => return (← a.rememberMe.loginSuccess ctx p, .ok p)
  | (ctx, .error f) => do
    let (ctx, _) ← a.binder.unbind ctx
    a.fail ctx f

/-- Tries to log in with a name and a password. -/
def run (a : Authentication m) (ctx : RequestContext) (username password : String) :
    m (Step LoginFailure Principal) :=
  match Credential.parse username password with
  | .error e => a.fail ctx (.ofUsernameError e)
  | .ok credential => do
    match ← a.verifier.verify credential with
    | .error e => a.fail ctx (.ofVerificationError e)
    | .ok identity => a.complete ctx (.ofIdentity identity)

end Authentication

end WebLogin
