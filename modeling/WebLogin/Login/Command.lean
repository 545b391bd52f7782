/-
The login command: everything that a service does with a request.

The command is set up by setters and then started. While it is started its configuration cannot be
changed, and requests can be given a scope, log in and log out. The decision whether a principal
holds a role needs no started command. A call that sets it up works on the command in place, and
leaves its owner with it also when it fails.
-/
import WebLogin.Login.Authenticate
import WebLogin.Logout.Sequence
import WebLogin.Operation

namespace WebLogin

/-- What a login command is set up with. -/
structure LoginConfig (m : Type → Type) where
  /-- Who checks credentials. -/
  verifier : Verifier m
  /-- Where sessions are kept. -/
  store : Option (SessionStore m)
  /-- What happens to a session at a login. -/
  strategy : SessionStrategy m
  /-- Who remembers logins. -/
  rememberMe : RememberMe m
  /-- The handlers of a logout, if they are not the usual ones. -/
  handlers : Option (List (LogoutHandler m))
  /-- Where a login is kept between requests. -/
  mode : Mode
  /-- Whether the usual handler of a logout ends the session. -/
  invalidateSession : Bool

/-- A login command: its configuration, and the steps of a logout while it is started. -/
structure LoginCommand (m : Type → Type) where
  /-- What the command is set up with. -/
  config : LoginConfig m
  /-- The logout of a started command, with its binder. -/
  started : Option (LogoutSequence m)

namespace LoginCommand

variable {m : Type → Type} [Monad m]

/-- A command with a verifier and nothing else set. -/
def new (verifier : Verifier m) : LoginCommand m where
  config :=
    { verifier, store := none, strategy := .null, rememberMe := .null, handlers := none,
      mode := .default, invalidateSession := true }
  started := none

/-- Whether the command is started. -/
def isStarted (c : LoginCommand m) : Bool := c.started.isSome

/-! ### Setting up -/

/-- What sets up a command: it gives an error or nothing, and the command as it is then. -/
abbrev Setup (m : Type → Type) := EStateM ConfigurationError (LoginCommand m)

/-- The command that was set up, or the error that came up. -/
def changed :
    EStateM.Result ConfigurationError (LoginCommand m) Unit →
      Except ConfigurationError (LoginCommand m)
  | .ok () c => .ok c
  | .error e _ => .error e

/-- Somebody who gives up at the first error need not look at the command that it leaves. -/
instance : Coe (EStateM.Result ConfigurationError (LoginCommand m) Unit)
    (Except ConfigurationError (LoginCommand m)) := ⟨changed⟩

/-- Fails for a command that is started. -/
def ensureConfigurable : Setup m Unit := do
  if (← get).isStarted then throw .alreadyStarted

/-- Changes the configuration of a command that is not started. -/
def configure (change : LoginConfig m → LoginConfig m) : Setup m Unit := do
  ensureConfigurable
  modify fun c => { c with config := change c.config }

/-- Sets the place where sessions are kept. -/
def setStore (store : SessionStore m) : Setup m Unit :=
  configure ({ · with store := some store })

/-- Sets what happens to a session at a login. -/
def setStrategy (strategy : SessionStrategy m) : Setup m Unit :=
  configure ({ · with strategy })

/-- Sets who remembers logins. -/
def setRememberMe (rememberMe : RememberMe m) : Setup m Unit :=
  configure ({ · with rememberMe })

/-- Sets the handlers of a logout. -/
def setHandlers (handlers : List (LogoutHandler m)) : Setup m Unit :=
  configure ({ · with handlers := some handlers })

/-- Sets whether each request stands alone. -/
def setPerClient (perClient : Bool) : Setup m Unit :=
  configure ({ · with mode := .ofPerClient perClient })

/-- Sets whether the usual handler of a logout ends the session. -/
def setInvalidateSession (invalidateSession : Bool) : Setup m Unit :=
  configure ({ · with invalidateSession })

/-- The handlers of a logout: those that were set, or the usual one. -/
def handlersOf (config : LoginConfig m) : List (LogoutHandler m) :=
  config.handlers.getD
    [.securityContext config.store (config.invalidateSession && !config.mode.isPerClient)]

/-- Starts the command. -/
def start : Setup m Unit := do
  ensureConfigurable
  let c ← get
  match SessionBinder.ofMode c.config.mode c.config.store with
  | .error e => throw e
  | .ok binder => set { c with started := some ⟨handlersOf c.config, binder⟩ }

/-- Stops the command. -/
def stop (c : LoginCommand m) : LoginCommand m := { c with started := none }

/-- The names of the handlers of a logout; none while the command is not started. -/
def handlerNames (c : LoginCommand m) : List String :=
  c.started.elim [] LogoutSequence.names

/-! ### Serving requests -/

/-- Gives a request a scope: its principal is restored from the session, or else remembered. -/
def scope (c : LoginCommand m) (ctx : RequestContext) : m (Step ScopeError Unit) :=
  match c.started with
  | none => return (ctx, .error .notStarted)
  | some s => do
    match ← s.binder.restore ctx with
    | (ctx, .error e) => return (ctx, .error (.store e))
    | (ctx, .ok ()) =>
      if ctx.isAuthenticated then return (ctx, .ok ())
      else
        match ← c.config.rememberMe.autoLogin ctx with
        | (ctx, none) => return (ctx, .ok ())
        | (ctx, some p) => do
          let (ctx, result) ← s.binder.bind ctx p
          return (ctx, result.mapError .store)

/-- Ends the scope of a request: nobody is bound to it any more. -/
def finish (ctx : RequestContext) : RequestContext := ctx.unbindPrincipal

/-- Those who take part in a login with a started command. -/
def authentication (c : LoginCommand m) (s : LogoutSequence m) : Authentication m where
  verifier := c.config.verifier
  binder := s.binder
  strategy := c.config.strategy
  rememberMe := c.config.rememberMe

/-- Tries to log in with a name and a password. -/
def login (c : LoginCommand m) (ctx : RequestContext) (username password : String) :
    m (Step LoginError Principal) :=
  match c.started with
  | none => return (ctx, .error .notStarted)
  | some s => do
    let (ctx, result) ← (c.authentication s).run ctx username password
    return (ctx, result.mapError .failed)

/-- Logs out the given principal, or else the one bound to the request. -/
def logout (c : LoginCommand m) (ctx : RequestContext) (principal : Option Principal) :
    m (Step LogoutError Unit) :=
  match c.started with
  | none => return (ctx, .error .notStarted)
  | some s => s.run ctx principal

/-- Whether a principal holds one of the roles; an empty list is open to nobody. -/
def authorizes (_ : LoginCommand m) (principal : Option Principal) (roles : List Authority) :
    Bool :=
  isAuthorized principal roles

end LoginCommand

end WebLogin
