/-
The two session stores answer alike.

The store in memory keeps sessions with a deadline, and looks at the deadline whenever an entry is
used. The store in Redis keeps texts under keys, and Redis lets a key expire once its time is over:
a key that was set for so many seconds is there until they have passed. Every call of the one
answers what the same call of the other answers, however their clocks are set.

* `Interchange.wait` — time that passes takes the same entries from both;
* `Interchange.call` — one call of both stores;
* `Interchange.replies` — any calls, from stores that hold the same sessions;
* `replies_eq` — any calls, from empty stores.
-/
import WebLogin.Proofs.Codec
import WebLogin.Proofs.Session.Id
import WebLogin.Proofs.Store.LiveMap
import WebLogin.Proofs.Store.RedisKeys

namespace WebLogin

open RedisStore (key)

/-! ### Calls one after the other -/

/-- Calls, each after some time and with the id that a session made by it gets. -/
abbrev TimedCalls := List (MemoryTurn × StoreCall)

def TimedCalls.elapsed : TimedCalls → Nat
  | [] => 0
  | (turn, _) :: rest => turn.wait + elapsed rest

/-- What a store in memory replies to calls. -/
def memoryReplies : TimedCalls → Uptime → MemoryStore → Except ClockOverflow (List StoreExchange)
  | [], _, _ => .ok []
  | (turn, c) :: rest, now, s => do
    let store : SessionStore (StateT MemoryStore (Except ClockOverflow)) :=
      MemoryStore.sessionStore (pure (now + turn.wait)) (pure turn.fresh)
    let (r, s) ← (c.on store).run s
    return ⟨c, r⟩ :: (← memoryReplies rest (now + turn.wait) s)

/-- What a store in Redis replies to calls. -/
def redisReplies (ttl : Nat) : TimedCalls → Nat → RedisKeys → List StoreExchange
  | [], _, _ => []
  | (turn, c) :: rest, now, keys =>
    let store := RedisStore.sessionStore (RedisKeys.connection (now + turn.wait)) ttl
      (pure turn.fresh)
    let (r, keys) := (c.on store).run keys
    ⟨c, r⟩ :: redisReplies ttl rest (now + turn.wait) keys

/-! ### The two stores side by side -/

/-- The text of a session with the moment until which Redis keeps it, where the other clock shows
another time. -/
def MemoryEntry.inRedis (now now' : Nat) (e : MemoryEntry) : String × Nat :=
  (e.session.toJson, e.deadline - now + now')

/-- Redis keeps the texts of the live sessions, each for as long as the session lives. -/
structure Interchange (now : Uptime) (s : MemoryStore) (now' : Nat) (keys : RedisKeys) : Prop where
  sound : s.Sound
  keys : ∀ id, (keys (key id)).filter (fun e => now' < e.2) =
    (s.live now id).map (MemoryEntry.inRedis now now')

theorem key_injective : Function.Injective key := by
  intro id id' h
  exact SessionId.text_injective ((String.append_right_inj _).1 h)

namespace Interchange

variable {s : MemoryStore} {keys : RedisKeys} {now now' ttl : Nat}

theorem empty (ttl now now' : Nat) : Interchange now { ttl } now' fun _ => none where
  sound := MemoryStore.sound_empty ttl
  keys _ := rfl

theorem inRedis_later {x : Session} {deadline : Nat} (hnow : now < deadline) (ms : Nat) :
    (some (MemoryEntry.inRedis now now' ⟨x, deadline⟩)).filter (fun e => now' + ms < e.2) =
      ((some ⟨x, deadline⟩).filter (MemoryEntry.isLive · (now + ms))).map
        (MemoryEntry.inRedis (now + ms) (now' + ms)) := by
  by_cases hlive : now + ms < deadline
  · have hkept : now' + ms < deadline - now + now' := by omega
    have htime : deadline - now + now' = deadline - (now + ms) + (now' + ms) := by omega
    rw [Option.filter_some_pos (by exact decide_eq_true hkept),
      Option.filter_some_pos (by exact decide_eq_true hlive), Option.map_some]
    exact congrArg (fun t => some (x.toJson, t)) htime
  · have hgone : ¬now' + ms < deadline - now + now' := by omega
    rw [Option.filter_some_neg (by exact decide_eq_false hgone),
      Option.filter_some_neg (by exact decide_eq_false hlive), Option.map_none]

/-- When time passes, the same entries expire in both. -/
theorem wait (h : Interchange now s now' keys) (ms : Nat) :
    Interchange (now + ms) s (now' + ms) keys where
  sound := h.sound
  keys id := by
    have hlater : (keys (key id)).filter (fun e => now' + ms < e.2) =
        ((keys (key id)).filter fun e => now' < e.2).filter fun e => now' + ms < e.2 := by
      rw [Option.filter_filter]
      congr 1
      funext e
      rw [← Bool.decide_and, decide_eq_decide]
      omega
    rw [hlater, h.keys, MemoryStore.live_later (Nat.le_add_right now ms)]
    cases hlive : s.live now id with
    | none => rfl
    | some e => exact inRedis_later (MemoryStore.live_eq_some_iff.1 hlive).2 ms

/-- What stands under the key of an id is the text of its session. -/
theorem value? (h : Interchange now s now' keys) (id : SessionId) :
    keys.value? now' (key id) = (s.live now id).map fun e => e.session.toJson := by
  rw [RedisKeys.value?, h.keys, Option.map_map]
  rfl

theorem write (h : Interchange now s now' keys) (httl : 0 < ttl) (x : Session) :
    Interchange now (s.insert x.id ⟨x, now + 1000 * ttl⟩) now'
      (Function.update keys (key x.id) (some (x.toJson, now' + 1000 * ttl))) where
  sound := h.sound.insert rfl
  keys id := by
    rw [MemoryStore.live_insert_eq]
    by_cases hid : id = x.id
    · have hdeadline : now < now + 1000 * ttl := by omega
      have hkept : now' < now' + 1000 * ttl := by omega
      have htime : now' + 1000 * ttl = now + 1000 * ttl - now + now' := by omega
      rw [hid, Function.update_self, Function.update_self,
        Option.filter_some_pos (by exact decide_eq_true hkept),
        Option.filter_some_pos (by exact decide_eq_true hdeadline), Option.map_some]
      exact congrArg (fun t => some (x.toJson, t)) htime
    · rw [Function.update_of_ne (key_injective.ne hid), Function.update_of_ne hid, h.keys]

theorem invalidate (h : Interchange now s now' keys) (id : SessionId) :
    Interchange now (s.invalidate id) now' (Function.update keys (key id) none) where
  sound := h.sound.erase id
  keys id' := by
    rw [MemoryStore.live_invalidate]
    by_cases hid : id' = id
    · rw [hid, Function.update_self, Function.update_self]
      rfl
    · rw [Function.update_of_ne (key_injective.ne hid), Function.update_of_ne hid, h.keys]

/-- Dropping what has expired leaves the keys of Redis as they are. -/
theorem purge (h : Interchange now s now' keys) : Interchange now (s.purge now) now' keys where
  sound := h.sound.purge now
  keys id := by rw [MemoryStore.live_purge h.sound, h.keys]

theorem get (h : Interchange now s now' keys) (id : SessionId) :
    Interchange now (s.get now id).2 now' keys where
  sound := h.sound.get now id
  keys id' := by rw [MemoryStore.live_get, h.keys]

/-- Both answer a call alike, and are side by side again after it. -/
theorem call (h : Interchange now s now' keys) (httl : 0 < s.ttl)
    (hmemory : now / 1000 + s.ttl ≤ Uptime.lastSecond)
    (hredis : now' + 1000 * s.ttl < signedLimit64) (fresh : SessionId) (c : StoreCall) :
    ∃ r s₁ keys₁, (c.on (MemoryStore.sessionStore (pure now) (pure fresh) :
        SessionStore (StateT MemoryStore (Except ClockOverflow)))).run s = .ok (r, s₁) ∧
      (c.on (RedisStore.sessionStore (RedisKeys.connection now') s.ttl (pure fresh))).run keys =
        (r, keys₁) ∧ Interchange now s₁ now' keys₁ ∧ s₁.ttl = s.ttl := by
  have hwrite (x : Session) (keys : RedisKeys) :
      (RedisStore.write (RedisKeys.connection now') s.ttl x).run keys = (.ok (),
        Function.update keys (key x.id) (some (x.toJson, now' + 1000 * s.ttl))) := by
    have hsetex : (RedisKeys.connection now').setex (key x.id) s.ttl x.toJson keys = (.ok (),
        Function.update keys (key x.id) (some (x.toJson, now' + 1000 * s.ttl))) :=
      if_pos (RedisKeys.accepts_iff.2 ⟨httl, hredis⟩)
    exact congrArg (fun p => (RedisStore.answer p.1, p.2)) hsetex
  cases c with
  | create =>
    refine ⟨.ok (.fresh fresh), _, _, ?_, ?_, h.purge.write httl (.fresh fresh), rfl⟩
    · rw [MemoryHost.run_create, MemoryStore.create_eq hmemory]
      rfl
    · exact congrArg (fun p => (p.1.map fun _ => Session.fresh fresh, p.2))
        (hwrite (.fresh fresh) keys)
  | get id =>
    refine ⟨.ok (s.get now id).1, _, keys, rfl, ?_, h.get id, MemoryStore.ttl_get s now id⟩
    have hcommand : ((RedisKeys.connection now').get (key id)).run keys =
        pure (.ok (keys.value? now' (key id)), keys) := rfl
    rw [StoreCall.on, RedisStore.sessionStore]
    dsimp only
    rw [StateT.run_bind, hcommand, h.value?, pure_bind, MemoryStore.get_fst]
    cases s.live now id with
    | none => rfl
    | some e =>
      -- The text of a session is read back as that session.
      show (((RedisStore.decode e.session.toJson).map some, keys) :
        Except StoreError (Option Session) × RedisKeys) = _
      rw [RedisStore.decode, Session.ofText_toJson]
      rfl
  | save x =>
    have hcommand : ((RedisKeys.connection now').has (key x.id)).run keys =
        pure (.ok (keys.value? now' (key x.id)).isSome, keys) := rfl
    rw [StoreCall.on, RedisStore.sessionStore, StoreCall.on]
    dsimp only
    rw [StateT.run_bind, hcommand, h.value?, Option.isSome_map, pure_bind]
    cases hlive : s.live now x.id with
    | none =>
      refine ⟨.error .sessionNotFound, s, keys, ?_, rfl, h, rfl⟩
      exact (MemoryHost.run_save ..).trans (MemoryStore.save_eq_of_missing hlive)
    | some e =>
      refine ⟨.ok (), _, _, ?_, hwrite x keys, h.write httl x, rfl⟩
      have hsome : (s.live now x.id).isSome := by
        rw [hlive]
        rfl
      exact (MemoryHost.run_save ..).trans (MemoryStore.save_eq_of_live hmemory hsome)
  | invalidate id => exact ⟨.ok (), _, _, rfl, rfl, h.invalidate id, rfl⟩

theorem replies {calls : TimedCalls} (h : Interchange now s now' keys) (httl : 0 < s.ttl)
    (hmemory : (now + calls.elapsed) / 1000 + s.ttl ≤ Uptime.lastSecond)
    (hredis : now' + calls.elapsed + 1000 * s.ttl < signedLimit64) :
    memoryReplies calls now s = .ok (redisReplies s.ttl calls now' keys) := by
  induction calls generalizing s keys now now' with
  | nil => rfl
  | cons call rest ih =>
    obtain ⟨turn, c⟩ := call
    have helapsed : TimedCalls.elapsed ((turn, c) :: rest) =
        turn.wait + TimedCalls.elapsed rest := rfl
    rw [helapsed] at hmemory hredis
    obtain ⟨r, s₁, keys₁, hmem, hred, h₁, hs₁⟩ :=
      (h.wait turn.wait).call httl (by omega) (by omega) turn.fresh c
    have hrest := ih h₁ (by omega) (by omega) (by omega)
    rw [memoryReplies, redisReplies]
    dsimp only
    rw [hmem, hred]
    show (memoryReplies rest (now + turn.wait) s₁ >>= fun rs => .ok (⟨c, r⟩ :: rs)) = _
    rw [hrest, hs₁]
    rfl

end Interchange

/-- Calls one after the other, each after any time: the two stores give the same replies. The clocks
of both can write every deadline. -/
theorem replies_eq {ttl now now' : Nat} {calls : TimedCalls} (httl : 1 ≤ ttl)
    (hmemory : (now + calls.elapsed) / 1000 + ttl ≤ Uptime.lastSecond)
    (hredis : now' + calls.elapsed + 1000 * ttl < signedLimit64) :
    memoryReplies calls now { ttl } = .ok (redisReplies ttl calls now' fun _ => none) :=
  (Interchange.empty ttl now now').replies httl hmemory hredis

/-- A session is saved in the last second of its life, and looked up when its time is over. -/
def savedLate : TimedCalls :=
  [(⟨0, ⟨7⟩⟩, .create), (⟨59000, ⟨0⟩⟩, .save ⟨⟨7⟩, some ⟨"ali\"ce", .empty⟩⟩),
    (⟨59000, ⟨0⟩⟩, .get ⟨7⟩), (⟨1000, ⟨0⟩⟩, .get ⟨7⟩),
    (⟨0, ⟨0⟩⟩, .save ⟨⟨7⟩, none⟩), (⟨0, ⟨8⟩⟩, .create), (⟨0, ⟨0⟩⟩, .invalidate ⟨8⟩)]

theorem replies_eq_savedLate : 1 ≤ 60 ∧ (0 + savedLate.elapsed) / 1000 + 60 ≤ Uptime.lastSecond ∧
    5000 + savedLate.elapsed + 1000 * 60 < signedLimit64 ∧
    memoryReplies savedLate 0 { ttl := 60 } = .ok (redisReplies 60 savedLate 5000 fun _ => none) :=
  ⟨by decide, by decide, by decide, replies_eq (by decide) (by decide) (by decide)⟩

end WebLogin
