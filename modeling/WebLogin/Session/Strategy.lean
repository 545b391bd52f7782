/-
What happens to a session when somebody logs in with it.

`SessionStrategy.changeId` moves the request to a new session, so that an id from before the login
never names an authenticated session: what the old session held is copied and the old one removed.
If that fails, the new session is removed again and the request stays where it was.
-/
import WebLogin.Session.Binder

namespace WebLogin

/-- What is done with the session of a request after a principal was bound to it. -/
structure SessionStrategy (m : Type → Type) where
  /-- Is told of a login, and may refuse it. -/
  onAuthentication : RequestContext → Principal → m (Step StrategyError Unit)

namespace SessionStrategy

variable {m : Type → Type} [Monad m]

/-- The strategy that leaves the session as it is. -/
def null : SessionStrategy m where
  onAuthentication ctx _ := return (ctx, .ok ())

/-- Copies the principal of a session to a new one and removes the old one. -/
def moveSession (store : SessionStore m) (old fresh : Session) : m (Except StoreError Unit) := do
  match old.principal with
  | none => store.invalidate old.id
  | some p =>
    match ← store.save { fresh with principal := some p } with
    | .error e => return .error e
    | .ok () => store.invalidate old.id

/-- Moves a request to a new session, if the store knows its session. -/
def rotate (store : SessionStore m) (ctx : RequestContext) : m (Step StoreError Unit) :=
  match ctx.sessionId with
  | none => return (ctx, .ok ())
  | some id => do
    match ← store.get id with
    | .error e => return (ctx, .error e)
    | .ok none => return (ctx, .ok ())
    | .ok (some old) =>
      match ← store.create with
      | .error e => return (ctx, .error e)
      | .ok fresh =>
        match ← moveSession store old fresh with
        | .ok () => return (ctx.withSession (some fresh.id), .ok ())
        | .error e => do
          let _ ← store.invalidate fresh.id
          return (ctx, .error e)

/-- The strategy that gives a request a new session id. -/
def changeId (store : SessionStore m) : SessionStrategy m where
  onAuthentication ctx _ := do
    let (ctx, result) ← rotate store ctx
    return (ctx, result.mapError .store)

end SessionStrategy

end WebLogin
