/-
The steps of a logout.

A handler cleans up one thing and may fail. There is one that ends the session of the request, one
that removes cookies, and one for remember-me, which stands with remember-me itself.
-/
import WebLogin.Session.Binder

namespace WebLogin

/-- A step of a logout. -/
structure LogoutHandler (m : Type → Type) where
  /-- The name under which a failure is reported. -/
  name : String
  /-- Cleans up for a principal that is logging out, if there is one. -/
  cleanup : RequestContext → Option Principal → m (Step HandlerError Unit)

namespace LogoutHandler

variable {m : Type → Type} [Monad m]

/-- Ends the session of the request, if sessions are to be ended. The request has no session
afterwards, even when the store fails. -/
def securityContext (store : Option (SessionStore m)) (invalidate : Bool := true) :
    LogoutHandler m where
  name := "security-context"
  cleanup ctx _ :=
    match invalidate, store, ctx.sessionId with
    | true, some store, some id => do
      let result ← store.invalidate id
      return (ctx.withSession none, result.mapError .store)
    | _, _, _ => return (ctx, .ok ())

/-- Removes cookies. -/
def cookieClearing (names : List String) : LogoutHandler m where
  name := "cookie-clearing"
  cleanup ctx _ :=
    return (names.foldl (fun ctx name => ctx.addResponseCookie (.removal name)) ctx, .ok ())

end LogoutHandler

end WebLogin
