/-
The settings of the service, and how they are taken out of a configuration tree.
-/
import WebLogin.Session.Data
import WebLogin.Settings.Decode

namespace WebLogin

/-- Where sessions are kept. -/
inductive SessionBackend where
  /-- In memory. -/
  | memory
  /-- In Redis. -/
  | redis
  deriving DecidableEq, Repr

namespace SessionBackend

/-- The name of the backend in settings. -/
def text : SessionBackend → String
  | memory => "memory"
  | redis => "redis"

/-- The backend of a name. -/
def ofText? (s : String) : Option SessionBackend := [memory, redis].find? (·.text == s)

end SessionBackend

/-- Who vouches for users. -/
inductive VerifierBackend where
  /-- The users listed in the settings. -/
  | memory
  /-- A PostgreSQL database. -/
  | postgres
  deriving DecidableEq, Repr

namespace VerifierBackend

/-- The name of the backend in settings. -/
def text : VerifierBackend → String
  | memory => "memory"
  | postgres => "postgres"

/-- The backend of a name. -/
def ofText? (s : String) : Option VerifierBackend := [memory, postgres].find? (·.text == s)

end VerifierBackend

/-- How users log in and out. -/
structure LoginSettings where
  /-- Where a login is kept between requests. -/
  mode : Mode
  /-- Whether a logout ends the session. -/
  invalidateSession : Bool
  /-- Further cookies that a logout removes. -/
  clearCookies : List String
  deriving DecidableEq, Repr

/-- How sessions are kept. -/
structure SessionSettings where
  /-- The name of the session cookie. -/
  cookieName : String
  /-- How many seconds a session lives after its last use. -/
  ttlSeconds : Nat
  /-- Where sessions are kept. -/
  backend : SessionBackend
  deriving DecidableEq, Repr

/-- How logins are remembered without a session. -/
structure RememberMeSettings where
  /-- Whether logins are remembered. -/
  enabled : Bool
  /-- The name of the cookie. -/
  cookieName : String
  /-- The secret that tokens are signed with. -/
  secret : String
  /-- How many seconds a token lives. -/
  ttlSeconds : Int
  deriving DecidableEq, Repr

/-- A user that is known from the start. -/
structure SeedUser where
  /-- The name. -/
  username : String
  /-- The password. -/
  password : String
  /-- What the user may do. -/
  authorities : List String
  /-- Whether the account is open. -/
  enabled : Bool
  deriving DecidableEq, Repr

/-- Who vouches for users. -/
structure VerifierSettings where
  /-- The kind of verifier. -/
  backend : VerifierBackend
  /-- The users that are known from the start. -/
  users : List SeedUser
  deriving DecidableEq, Repr

/-- How the service is reached. -/
structure ServerSettings where
  /-- The address that the service listens at. -/
  address : String
  /-- The origins from which pages may call the service. -/
  allowedOrigins : List String
  deriving DecidableEq, Repr

/-- All settings. -/
structure Settings where
  /-- How users log in and out. -/
  login : LoginSettings
  /-- How sessions are kept. -/
  session : SessionSettings
  /-- How logins are remembered. -/
  rememberMe : RememberMeSettings
  /-- The host of Redis. -/
  redisHostName : String
  /-- The address of the database. -/
  postgresUrl : String
  /-- Who vouches for users. -/
  verifier : VerifierSettings
  /-- How the service is reached. -/
  server : ServerSettings
  deriving DecidableEq, Repr

namespace Settings

/-- The login settings of a value. -/
def decodeLogin (v : Tree) : Decoded LoginSettings := do
  let s ← fieldsOf ["mode", "invalidate_session", "clear_cookies"] v
  let mode ← s.optional "mode" (choice Mode.ofText?)
  let invalidateSession ← s.optional "invalidate_session" bool
  let clearCookies ← s.optional "clear_cookies" (listOf text)
  return { mode := ← s.require "mode" mode
           invalidateSession := ← s.require "invalidate_session" invalidateSession
           clearCookies := clearCookies.getD [] }

/-- The session settings of a value. -/
def decodeSession (v : Tree) : Decoded SessionSettings := do
  let s ← fieldsOf ["cookie_name", "ttl_seconds", "backend"] v
  let cookieName ← s.optional "cookie_name" text
  let ttlSeconds ← s.optional "ttl_seconds" natural
  let backend ← s.optional "backend" (choice SessionBackend.ofText?)
  return { cookieName := ← s.require "cookie_name" cookieName
           ttlSeconds := ← s.require "ttl_seconds" ttlSeconds
           backend := ← s.require "backend" backend }

/-- The remember-me settings of a value. -/
def decodeRememberMe (v : Tree) : Decoded RememberMeSettings := do
  let s ← fieldsOf ["enabled", "cookie_name", "secret", "ttl_seconds"] v
  let enabled ← s.optional "enabled" bool
  let cookieName ← s.optional "cookie_name" text
  let secret ← s.optional "secret" text
  let ttlSeconds ← s.optional "ttl_seconds" integer
  return { enabled := ← s.require "enabled" enabled
           cookieName := ← s.require "cookie_name" cookieName
           secret := ← s.require "secret" secret
           ttlSeconds := ← s.require "ttl_seconds" ttlSeconds }

/-- The text in the only field of a value. -/
def decodeOnly (name : String) (v : Tree) : Decoded String := do
  let s ← fieldsOf [name] v
  s.require name (← s.optional name text)

/-- The user of a value. -/
def decodeUser (v : Tree) : Decoded SeedUser := do
  let s ← fieldsOf ["username", "password", "authorities", "enabled"] v
  let username ← s.optional "username" text
  let password ← s.optional "password" text
  let authorities ← s.optional "authorities" (listOf text)
  let enabled ← s.optional "enabled" bool
  return { username := ← s.require "username" username
           password := ← s.require "password" password
           authorities := authorities.getD []
           enabled := enabled.getD true }

/-- The verifier settings of a value. -/
def decodeVerifier (v : Tree) : Decoded VerifierSettings := do
  let s ← fieldsOf ["backend", "users"] v
  let backend ← s.optional "backend" (choice VerifierBackend.ofText?)
  let users ← s.optional "users" (listOf decodeUser)
  return { backend := ← s.require "backend" backend, users := users.getD [] }

/-- The server settings of a value. -/
def decodeServer (v : Tree) : Decoded ServerSettings := do
  let s ← fieldsOf ["address", "allowed_origins"] v
  let address ← s.optional "address" text
  let allowedOrigins ← s.optional "allowed_origins" (listOf text)
  return { address := ← s.require "address" address, allowedOrigins := allowedOrigins.getD [] }

/-- The settings of a configuration. -/
def decode (v : Tree) : Decoded Settings := do
  let s ← fieldsOf
    ["login", "session", "remember_me", "redis", "postgres", "verifier", "server"] v
  let login ← s.optional "login" decodeLogin
  let session ← s.optional "session" decodeSession
  let rememberMe ← s.optional "remember_me" decodeRememberMe
  let redis ← s.optional "redis" (decodeOnly "host_name")
  let postgres ← s.optional "postgres" (decodeOnly "url")
  let verifier ← s.optional "verifier" decodeVerifier
  let server ← s.optional "server" decodeServer
  return { login := ← s.require "login" login
           session := ← s.require "session" session
           rememberMe := ← s.require "remember_me" rememberMe
           redisHostName := ← s.require "redis" redis
           postgresUrl := ← s.require "postgres" postgres
           verifier := ← s.require "verifier" verifier
           server := ← s.require "server" server }

end Settings

end WebLogin
