/-
Building a login service from its settings.

The settings say where sessions are kept, who vouches for users and what happens around a login.
What they ask for is opened, wired into a login command, and the command is started.
-/
import WebLogin.Http.Service
import WebLogin.RememberMe.Service
import WebLogin.Settings.Load
import WebLogin.UserDirectory

namespace WebLogin

/-- Why a service cannot be started. -/
inductive StartupError where
  /-- The settings cannot be put into effect. -/
  | configuration (e : ConfigurationError)
  /-- The database cannot be used. -/
  | database (text : String)
  /-- Redis cannot be used. -/
  | redis (text : String)
  /-- An allowed origin cannot be the value of a header. -/
  | invalidOrigin
  deriving DecidableEq, Repr

namespace StartupError

/-- The text that reports the error. -/
def message : StartupError → String
  | configuration e => "Configuration error: " ++ e.message
  | database text => "Database error: " ++ text
  | redis text => "Redis error: " ++ text
  | invalidOrigin => Http.InvalidOrigin.message {}

end StartupError

/-- What a service draws on. -/
structure Resources (m : Type → Type) where
  /-- The clock that tokens and cookies are dated by. -/
  clock : m Timestamp
  /-- A salt for one more password. -/
  salt : m (List UInt8)
  /-- Opens a store in memory, given how many seconds a session lives. -/
  memoryStore : Nat → m (SessionStore m)
  /-- Opens a store in Redis, given a host and how many seconds a session lives. -/
  redisStore : String → Nat → m (Except String (SessionStore m))
  /-- Opens a database of users, given its address. -/
  database : String → m (Except String (Verifier m))

namespace Deployment

variable {m : Type → Type} [Monad m]

/-- A result as a step of the start, with its error reported in another way. -/
def report {ε α : Type} (error : ε → StartupError) : Except ε α → ExceptT StartupError m α
  | .ok a => return a
  | .error e => throw (error e)

/-- Opens the store that the settings ask for. -/
def openStore (r : Resources m) (s : Settings) : ExceptT StartupError m (SessionStore m) :=
  match s.session.backend with
  | .memory => r.memoryStore s.session.ttlSeconds
  | .redis => do report .redis (← r.redisStore s.redisHostName s.session.ttlSeconds)

/-- The user that the settings list. -/
def newUser (u : SeedUser) : UserDirectory.NewUser :=
  { name := u.username, password := u.password, authorities := u.authorities
    enabled := u.enabled }

/-- The directory with the listed users signed up in order. -/
def signUp (salt : m (List UInt8)) : List SeedUser → UserDirectory → m UserDirectory
  | [], d => return d
  | u :: users, d => do
    signUp salt users (d.addUser .argon2 (← salt) (newUser u))

/-- Opens what the settings ask to vouch for users. -/
def openVerifier (r : Resources m) (s : Settings) : ExceptT StartupError m (Verifier m) := do
  match s.verifier.backend with
  | .memory => return (← signUp r.salt s.verifier.users {}).verifier .argon2
  | .postgres => report .database (← r.database s.postgresUrl)

/-- How the settings ask to remember logins. -/
def rememberMeConfig (s : Settings) : RememberMeConfig :=
  { cookieName := s.rememberMe.cookieName, secret := s.rememberMe.secret
    ttl := s.rememberMe.ttlSeconds }

/-- The handlers of a logout under the settings. -/
def logoutHandlers (s : Settings) (store : SessionStore m) : List (LogoutHandler m) :=
  [.securityContext store (s.login.invalidateSession && !s.login.mode.isPerClient)] ++
    (if s.rememberMe.enabled then [(rememberMeConfig s).handler] else []) ++
    (if s.login.clearCookies.isEmpty then [] else [.cookieClearing s.login.clearCookies])

/-- What a command is set up with under the settings. -/
def loginConfig (s : Settings) (clock : m Timestamp) (store : SessionStore m)
    (verifier : Verifier m) : LoginConfig m where
  verifier := verifier
  store := some store
  strategy := if s.login.mode.isPerClient then .null else .changeId store
  rememberMe := if s.rememberMe.enabled then (rememberMeConfig s).service clock else .null
  handlers := some (logoutHandlers s store)
  mode := s.login.mode
  invalidateSession := s.login.invalidateSession

/-- A started command under the settings. -/
def command (s : Settings) (clock : m Timestamp) (store : SessionStore m)
    (verifier : Verifier m) : Except ConfigurationError (LoginCommand m) :=
  LoginCommand.changed
    (LoginCommand.start.run { config := loginConfig s clock store verifier, started := none })

/-- Opens what the settings ask for and starts a command. -/
def start (r : Resources m) (s : Settings) : ExceptT StartupError m (LoginCommand m) := do
  report .configuration (Settings.Backends.all.check s)
  let store ← openStore r s
  let verifier ← openVerifier r s
  report .configuration (command s r.clock store verifier)

/-- Starts a service. -/
def service (r : Resources m) (s : Settings) : ExceptT StartupError m (Http.LoginService m) := do
  let command ← start r s
  let origins ← report (fun _ => .invalidOrigin)
    (Http.AllowedOrigins.parse s.server.allowedOrigins)
  return { command, cookieName := s.session.cookieName, origins, clock := r.clock }

end Deployment

end WebLogin
