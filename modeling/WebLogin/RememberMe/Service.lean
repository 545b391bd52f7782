/-
Remembering logins by a signed token in a cookie.

A login puts a new token into the cookie; a login that fails, a logout and a token that is not
accepted remove the cookie. A request with an accepted token is logged in as the principal that
the token names.
-/
import WebLogin.Login.Hooks
import WebLogin.Logout.Handler
import WebLogin.RememberMe.Token

namespace WebLogin

/-- How logins are remembered. -/
structure RememberMeConfig where
  /-- The name of the cookie. -/
  cookieName : String
  /-- The secret that tokens are signed with. -/
  secret : String
  /-- How many seconds a token lives. -/
  ttl : Int
  deriving DecidableEq, Repr

namespace RememberMeConfig

/-- Removes the cookie. -/
def clearCookie (c : RememberMeConfig) (ctx : RequestContext) : RequestContext :=
  ctx.addResponseCookie (.removal c.cookieName)

/-- The principal of the token that a request brings; a token that is not accepted is removed. -/
def autoLogin (c : RememberMeConfig) (now : Timestamp) (ctx : RequestContext) :
    RequestContext × Option Principal :=
  match ctx.requestCookie? c.cookieName with
  | none => (ctx, none)
  | some token =>
    match Token.verify c.secret now token with
    | .ok claims => (ctx, some claims.principal)
    | .error _ => (c.clearCookie ctx, none)

/-- Queues a new token for a principal, unless none can be issued. -/
def loginSuccess (c : RememberMeConfig) (now : Timestamp) (ctx : RequestContext)
    (p : Principal) : RequestContext :=
  match Token.issue c.secret c.ttl now p with
  | .ok token =>
    ctx.addResponseCookie { name := c.cookieName, value := token, maxAge := some c.ttl }
  | .error _ => ctx

variable {m : Type → Type} [Monad m]

/-- Remembers logins, with a clock. -/
def service (c : RememberMeConfig) (clock : m Timestamp) : RememberMe m where
  autoLogin ctx := return c.autoLogin (← clock) ctx
  loginSuccess ctx p := return c.loginSuccess (← clock) ctx p
  loginFail ctx := return c.clearCookie ctx

/-- The step of a logout that removes the cookie. -/
def handler (c : RememberMeConfig) : LogoutHandler m where
  name := "remember-me"
  cleanup ctx _ := return (c.clearCookie ctx, .ok ())

end RememberMeConfig

end WebLogin
