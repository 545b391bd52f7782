/-
Logging out.

All handlers run in order, each on the context that the one before it left, and a failure stops
none of them. Then the principal is unbound, once. Whatever failed is reported together.
-/
import WebLogin.Logout.Handler

namespace WebLogin

/-- The steps of a logout: the handlers, and the binder that unbinds the principal after them. -/
structure LogoutSequence (m : Type → Type) where
  /-- The handlers in order. -/
  handlers : List (LogoutHandler m)
  /-- Who unbinds the principal. -/
  binder : SessionBinder m

namespace LogoutSequence

variable {m : Type → Type} [Monad m]

/-- The name under which a failure of the last step is reported. -/
def binderName : String := "session-binder"

/-- The names of the handlers in order. -/
def names (s : LogoutSequence m) : List String := s.handlers.map (·.name)

/-- The failure of a step, as a list. -/
def failureOf {α : Type} (name : String) : Except HandlerError α → List StepFailure
  | .ok _ => []
  | .error e => [⟨name, e⟩]

/-- Runs handlers for a principal; gives the context they leave and the failures in order. -/
def runHandlers (principal : Option Principal) :
    List (LogoutHandler m) → RequestContext → m (RequestContext × List StepFailure)
  | [], ctx => return (ctx, [])
  | h :: rest, ctx => do
    let (ctx, result) ← h.cleanup ctx principal
    let (ctx, failures) ← runHandlers principal rest ctx
    return (ctx, failureOf h.name result ++ failures)

/-- The result of a logout with some failures. -/
def resultOf : List StepFailure → Except LogoutError Unit
  | [] => .ok ()
  | failures => .error (.handlers failures)

/-- Logs out the given principal, or else the one bound to the request. -/
def run (s : LogoutSequence m) (ctx : RequestContext) (principal : Option Principal) :
    m (Step LogoutError Unit) := do
  let (ctx, failures) ← runHandlers (principal <|> ctx.principal) s.handlers ctx
  let (ctx, unbound) ← s.binder.unbind ctx
  return (ctx, resultOf (failures ++ failureOf binderName (unbound.mapError .store)))

end LogoutSequence

end WebLogin
