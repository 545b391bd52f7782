/-
What the rest of the library asks of a session store.

The calls run in a monad of the caller's choice, so that the same code can be run against a store
in memory, one in Redis, one that fails at will, or be taken apart into its single calls.
-/
import WebLogin.Failure
import WebLogin.Session.Data

namespace WebLogin

/-- A place where sessions are kept. -/
structure SessionStore (m : Type → Type) where
  /-- Makes a session with a new id and nobody logged in. -/
  create : m (Except StoreError Session)
  /-- The session of an id, if there is one. -/
  get : SessionId → m (Except StoreError (Option Session))
  /-- Replaces a session that is there. -/
  save : Session → m (Except StoreError Unit)
  /-- Removes a session, whether it is there or not. -/
  invalidate : SessionId → m (Except StoreError Unit)

end WebLogin
