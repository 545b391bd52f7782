/-
A session store in memory.

Every entry has a deadline, so many seconds after the session was made or last saved, and counts
as absent from that moment on. Entries that have expired are dropped when they are looked up and
whenever a session is made. The clock counts seconds in 64 bits with a sign, and a deadline beyond
that cannot be written.
-/
import WebLogin.Number.Limits
import WebLogin.Store.Basic

namespace WebLogin

/-- Time since the clock started, in milliseconds. -/
abbrev Uptime := Nat

/-- The failure of a clock to write a moment that lies too far ahead. -/
structure ClockOverflow where
  deriving DecidableEq, Repr

namespace Uptime

/-- The last second that the clock can write. -/
def lastSecond : Nat := signedLimit64 - 1

/-- The moment so many seconds later. -/
def addSeconds (now : Uptime) (seconds : Nat) : Except ClockOverflow Uptime :=
  if now / 1000 + seconds ≤ lastSecond then .ok (now + 1000 * seconds) else .error {}

end Uptime

/-- A session and the moment from which it counts as absent. -/
structure MemoryEntry where
  /-- The session. -/
  session : Session
  /-- The first moment at which the session is absent. -/
  deadline : Uptime
  deriving DecidableEq

namespace MemoryEntry

/-- Whether the session is still there at a moment. -/
def isLive (e : MemoryEntry) (now : Uptime) : Bool := now < e.deadline

end MemoryEntry

/-- The sessions kept in memory, by id. -/
structure MemoryStore where
  /-- How many seconds a session lives. -/
  ttl : Nat
  /-- The entries. -/
  entries : List (SessionId × MemoryEntry) := []
  deriving DecidableEq

namespace MemoryStore

/-- The entry of an id, expired or not. -/
def find? (s : MemoryStore) (id : SessionId) : Option MemoryEntry := s.entries.lookup id

/-- The store without the entry of an id. -/
def erase (s : MemoryStore) (id : SessionId) : MemoryStore :=
  { s with entries := s.entries.filter fun e => e.1 != id }

/-- The store with an entry for an id, in place of an earlier one. -/
def insert (s : MemoryStore) (id : SessionId) (e : MemoryEntry) : MemoryStore :=
  { s with entries := (id, e) :: (s.erase id).entries }

/-- How many entries there are, expired ones included. -/
def size (s : MemoryStore) : Nat := s.entries.length

/-- Whether there is no entry. -/
def isEmpty (s : MemoryStore) : Bool := s.entries.isEmpty

/-- The store without the entries that have expired. -/
def purge (s : MemoryStore) (now : Uptime) : MemoryStore :=
  { s with entries := s.entries.filter fun e => e.2.isLive now }

/-- How many entries a purge drops. -/
def expiredCount (s : MemoryStore) (now : Uptime) : Nat := s.size - (s.purge now).size

/-- The store with a session that lives from now on. -/
def put (s : MemoryStore) (now : Uptime) (session : Session) :
    Except ClockOverflow MemoryStore :=
  (now.addSeconds s.ttl).map fun deadline => s.insert session.id ⟨session, deadline⟩

/-- Makes a session under a new id, after a purge. -/
def create (s : MemoryStore) (now : Uptime) (id : SessionId) :
    Except ClockOverflow (Session × MemoryStore) :=
  ((s.purge now).put now (.fresh id)).map (.fresh id, ·)

/-- Looks up a session and drops its entry if it has expired. -/
def get (s : MemoryStore) (now : Uptime) (id : SessionId) : Option Session × MemoryStore :=
  match s.find? id with
  | some e => if e.isLive now then (some e.session, s) else (none, s.erase id)
  | none => (none, s)

/-- Replaces a session that is there, and lets it live anew. -/
def save (s : MemoryStore) (now : Uptime) (session : Session) :
    Except ClockOverflow (Except StoreError Unit × MemoryStore) :=
  if (s.find? session.id).any (·.isLive now) then
    (s.put now session).map (.ok (), ·)
  else .ok (.error .sessionNotFound, s)

/-- Removes a session. -/
def invalidate (s : MemoryStore) (id : SessionId) : MemoryStore := s.erase id

variable {m : Type → Type} [Monad m] [MonadStateOf MemoryStore m] [MonadExceptOf ClockOverflow m]

/-- Runs an operation of the store on the current state. -/
def update {α : Type} (op : MemoryStore → Except ClockOverflow (α × MemoryStore)) : m α := do
  match op (← getThe MemoryStore) with
  | .ok (a, s) => do
    MonadStateOf.set s
    return a
  | .error e => throw e

/-- The store in the state of a monad, with a clock and a source of new ids. -/
def sessionStore (clock : m Uptime) (freshId : m SessionId) : SessionStore m where
  create := do
    let now ← clock
    let id ← freshId
    return .ok (← update fun s => s.create now id)
  get id := do
    let now ← clock
    return .ok (← update fun s => .ok (s.get now id))
  save session := do
    let now ← clock
    update fun s => s.save now session
  invalidate id := return .ok (← update fun s => .ok ((), s.invalidate id))

end MemoryStore

end WebLogin
