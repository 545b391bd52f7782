/-
Redis as far as a session store can see it.

Redis keeps values under keys. A key that was set for so many seconds is there until they have
passed, and it is missing from that moment on, like a key that was removed or never set. An expiry
that does not fit the clock is refused.

* `RedisKeys.connection` — the answers to commands at a moment;
* `RedisKeys.value?_update`, `RedisKeys.value?_eq_none_later` — the value of a key after another one
  was set, and after some time.
-/
import WebLogin.Number.Limits
import WebLogin.Store.Redis
import Mathlib.Logic.Function.Basic

namespace WebLogin

/-- The keys that Redis keeps, each with a value and the moment until which it is there. -/
abbrev RedisKeys := String → Option (String × Nat)

namespace RedisKeys

/-- The value of a key at a moment, unless it has expired. -/
def value? (keys : RedisKeys) (now : Nat) (k : String) : Option String :=
  ((keys k).filter fun e => now < e.2).map Prod.fst

/-- Whether a time to live fits at a moment: it is not zero, and its end can be written in 64
bits. -/
def accepts (now seconds : Nat) : Bool := 0 < seconds && now + 1000 * seconds < signedLimit64

/-- Redis at a moment. -/
def connection (now : Nat) : RedisConnection (StateM RedisKeys) where
  setex k seconds v := fun keys =>
    if accepts now seconds then
      (.ok (), Function.update keys k (some (v, now + 1000 * seconds)))
    else (.error "ERR invalid expire time in 'setex' command", keys)
  get k := fun keys => (.ok (keys.value? now k), keys)
  has k := fun keys => (.ok (keys.value? now k).isSome, keys)
  del k := fun keys => (.ok (), Function.update keys k none)

variable {keys : RedisKeys} {now : Nat} {k : String}

theorem accepts_iff {seconds : Nat} :
    accepts now seconds = true ↔ 0 < seconds ∧ now + 1000 * seconds < signedLimit64 := by
  rw [accepts, Bool.and_eq_true, decide_eq_true_iff, decide_eq_true_iff]

theorem value?_update (k' : String) (e : Option (String × Nat)) :
    value? (Function.update keys k' e) now k =
      if k = k' then (e.filter fun e => now < e.2).map Prod.fst else keys.value? now k := by
  rw [value?, Function.update_apply]
  split <;> rfl

/-- A key that was just set is there. -/
theorem value?_update_self {seconds : Nat} (h : accepts now seconds = true) (v : String) :
    value? (Function.update keys k (some (v, now + 1000 * seconds))) now k = some v := by
  have hahead : now < now + 1000 * seconds := by
    have hpositive := (accepts_iff.1 h).1
    omega
  rw [value?_update, if_pos rfl, Option.filter_some_pos (by exact decide_eq_true hahead)]
  rfl

/-- A missing key stays so as time passes. -/
theorem value?_eq_none_later (h : keys.value? now k = none) (wait : Nat) :
    keys.value? (now + wait) k = none := by
  rw [value?, Option.map_eq_none_iff, Option.filter_eq_none_iff] at h ⊢
  -- What has not expired later has not expired now.
  intro e he hlive
  have hlater : now + wait < e.2 := of_decide_eq_true hlive
  exact h e he (decide_eq_true (Nat.lt_of_le_of_lt (Nat.le_add_right ..) hlater))

theorem accepts_of_later {wait seconds : Nat} (h : accepts (now + wait) seconds = true) :
    accepts now seconds = true := by
  rw [accepts_iff] at h ⊢
  omega

end RedisKeys

end WebLogin
