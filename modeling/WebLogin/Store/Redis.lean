/-
A session store in Redis.

A session is kept as JSON under a key made of its id, and Redis lets the key expire. Each call of
the store is one command or two; other commands can come between two of them.
-/
import WebLogin.Codec
import WebLogin.Store.Basic

namespace WebLogin

/-- The commands of Redis that the store gives. A command is answered at one moment, with a value
or with the text of an error. -/
structure RedisConnection (m : Type → Type) where
  /-- Sets a key to a value that expires after so many seconds. -/
  setex : String → Nat → String → m (Except String Unit)
  /-- The value of a key. -/
  get : String → m (Except String (Option String))
  /-- Whether a key is there. -/
  has : String → m (Except String Bool)
  /-- Removes a key. -/
  del : String → m (Except String Unit)

namespace RedisStore

/-- The key that a session is kept under. -/
def key (id : SessionId) : String := "session:" ++ id.text

/-- The session that a value writes. -/
def decode (value : String) : Except StoreError Session :=
  match Json.ofText Session.reader value with
  | .ok session => .ok session
  | .error _ => .error (.unexpected "stored session cannot be read")

/-- The result of a command as one of the store. -/
def answer {α : Type} : Except String α → Except StoreError α
  | .ok a => .ok a
  | .error text => .error (.unexpected text)

variable {m : Type → Type} [Monad m]

/-- Writes a session, which then lives anew. -/
def write (redis : RedisConnection m) (ttl : Nat) (session : Session) :
    m (Except StoreError Unit) := do
  return answer (← redis.setex (key session.id) ttl session.toJson)

/-- The store over a connection, with a time to live and a source of new ids. -/
def sessionStore (redis : RedisConnection m) (ttl : Nat) (freshId : m SessionId) :
    SessionStore m where
  create := do
    let session := Session.fresh (← freshId)
    return (← write redis ttl session).map fun _ => session
  get id := do
    match ← redis.get (key id) with
    | .error text => return .error (.unexpected text)
    | .ok none => return .ok none
    | .ok (some value) => return (decode value).map some
  save session := do
    match ← redis.has (key session.id) with
    | .error text => return .error (.unexpected text)
    | .ok false => return .error .sessionNotFound
    | .ok true => write redis ttl session
  invalidate id := do
    return answer (← redis.del (key id))

end RedisStore

end WebLogin
