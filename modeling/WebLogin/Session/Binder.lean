/-
Keeping the principal of a request in step with its session.

A binder that keeps sessions restores the principal of a request from its session, binds a new
one to both and takes it from both. A binder that keeps none works on the request alone. A call
gives the context as it leaves it, also when it fails.
-/
import WebLogin.Context
import WebLogin.Store.Basic

namespace WebLogin

/-- The result of a step on a context: the context after it, and a value or an error. -/
abbrev Step (ε α : Type) := RequestContext × Except ε α

/-- How a principal is bound to a request. -/
inductive SessionBinder (m : Type → Type) where
  /-- To the request and to its session. -/
  | perSession (store : SessionStore m)
  /-- To the request alone. -/
  | perClient

namespace SessionBinder

variable {m : Type → Type} [Monad m]

/-- The binder of a mode; one that keeps sessions needs a store. -/
def ofMode (mode : Mode) (store : Option (SessionStore m)) :
    Except ConfigurationError (SessionBinder m) :=
  match mode, store with
  | .perSession, some store => .ok (.perSession store)
  | .perSession, none => .error .missingSessionStore
  | .perClient, _ => .ok .perClient

/-- Binds the principal of the request's session. An id that the store does not know is taken from
the request. -/
def restore (b : SessionBinder m) (ctx : RequestContext) : m (Step StoreError Unit) :=
  match b, ctx.sessionId with
  | .perSession store, some id => do
    match ← store.get id with
    | .error e => return (ctx, .error e)
    | .ok none => return (ctx.withSession none, .ok ())
    | .ok (some session) =>
      match session.principal with
      | some p => return (ctx.bindPrincipal p, .ok ())
      | none => return (ctx, .ok ())
  | _, _ => return (ctx, .ok ())

/-- The session of the request, or a new one, which the request then belongs to. -/
def sessionOf (store : SessionStore m) (ctx : RequestContext) : m (Step StoreError Session) := do
  let existing ← match ctx.sessionId with
    | some id => store.get id
    | none => pure (.ok none)
  match existing with
  | .error e => return (ctx, .error e)
  | .ok (some session) => return (ctx, .ok session)
  | .ok none =>
    match ← store.create with
    | .error e => return (ctx, .error e)
    | .ok session => return (ctx.withSession (some session.id), .ok session)

/-- Binds a principal to the request's session, or to a new one, and then to the request. -/
def bind (b : SessionBinder m) (ctx : RequestContext) (p : Principal) :
    m (Step StoreError Unit) :=
  match b with
  | .perClient => return (ctx.bindPrincipal p, .ok ())
  | .perSession store => do
    match ← sessionOf store ctx with
    | (ctx, .error e) => return (ctx, .error e)
    | (ctx, .ok session) =>
      match ← store.save { session with principal := some p } with
      | .error e => return (ctx, .error e)
      | .ok () => return (ctx.bindPrincipal p, .ok ())

/-- Takes the principal from the request and then from its session, and gives the one that the
request had. -/
def unbind (b : SessionBinder m) (ctx : RequestContext) :
    m (Step StoreError (Option Principal)) := do
  let taken := ctx.principal
  let ctx := ctx.unbindPrincipal
  match b, ctx.sessionId with
  | .perSession store, some id =>
    match ← store.get id with
    | .error e => return (ctx, .error e)
    | .ok none => return (ctx, .ok taken)
    | .ok (some session) =>
      if session.principal.isSome then
        match ← store.save { session with principal := none } with
        | .error e => return (ctx, .error e)
        | .ok () => return (ctx, .ok taken)
      else return (ctx, .ok taken)
  | _, _ => return (ctx, .ok taken)

end SessionBinder

end WebLogin
