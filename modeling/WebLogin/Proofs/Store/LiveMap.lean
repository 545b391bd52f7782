/-
The store in memory as a map of live sessions.

Entries that have expired may linger in a store until something drops them. A `LiveMap` holds the
live entries only, and whatever is asked of a host is answered by its live map: what lingers shows
nowhere.

* `MemoryHost.perform_create`, `perform_get`, `perform_save`, `perform_invalidate` — the answer of
  each call and the host it leaves;
* `MemoryHost.perform_liveMap` — a call of a host is a call of its live map.
-/
import WebLogin.Proofs.Concurrency.Memory

namespace WebLogin

namespace MemoryStore

variable {s : MemoryStore} {now : Uptime} {id : SessionId}

theorem live_insert_eq (e : MemoryEntry) :
    (s.insert id e).live now =
      Function.update (s.live now) id ((some e).filter (·.isLive now)) := by
  funext id'
  rw [live, find?_insert, Function.update_apply]
  split <;> rfl

theorem ttl_get (s : MemoryStore) (now : Uptime) (id : SessionId) :
    (s.get now id).2.ttl = s.ttl := by
  rcases get_snd s now id with h | ⟨h, -⟩ <;> rw [h]
  rfl

end MemoryStore

/-- The entries that are live at a moment, and what else the next call depends on. -/
structure LiveMap where
  live : SessionId → Option MemoryEntry
  ttl : Nat
  clock : Uptime
  used : List SessionId

namespace LiveMap

/-- The clock can write the deadline of a session that is written now. -/
def Writable (m : LiveMap) : Prop := m.clock / 1000 + m.ttl ≤ Uptime.lastSecond

instance (m : LiveMap) : Decidable m.Writable := inferInstanceAs (Decidable (_ ≤ _))

/-- The entry of a session that was written at a moment. -/
def entryAt (m : LiveMap) (written : Uptime) (x : Session) : MemoryEntry :=
  ⟨x, written + 1000 * m.ttl⟩

/-- Leaves a session or nothing under an id. An entry without any time to live has expired at
once. -/
def leave (m : LiveMap) (id : SessionId) (left : Option Session) : LiveMap :=
  { m with
    live := Function.update m.live id
      ((left.map (m.entryAt m.clock)).filter (·.isLive m.clock)) }

/-- The map so many milliseconds later. -/
def later (m : LiveMap) (ms : Nat) : LiveMap where
  live id := (m.live id).filter (·.isLive (m.clock + ms))
  ttl := m.ttl
  clock := m.clock + ms
  used := m.used

/-- Answers a call, if the new id has not been in use and the clock can write the deadline. -/
def call (m : LiveMap) (fresh : SessionId) : (c : StoreCall) → Option (c.Reply × LiveMap)
  | .create =>
    if fresh ∈ m.used ∨ ¬m.Writable then none
    else some (.ok (.fresh fresh),
      { m.leave fresh (some (.fresh fresh)) with used := fresh :: m.used })
  | .get id => some (.ok ((m.live id).map MemoryEntry.session), m)
  | .save x =>
    if (m.live x.id).isSome then
      if m.Writable then some (.ok (), m.leave x.id (some x)) else none
    else some (.error .sessionNotFound, m)
  | .invalidate id => some (.ok (), m.leave id none)

theorem later_later (m : LiveMap) (ms ms' : Nat) :
    (m.later ms).later ms' = m.later (ms + ms') := by
  have hlive : (fun id => ((m.live id).filter (·.isLive (m.clock + ms))).filter
      (·.isLive (m.clock + (ms + ms')))) =
        fun id => (m.live id).filter (·.isLive (m.clock + (ms + ms'))) := by
    funext id
    exact MemoryStore.filter_isLive_later
      (Nat.add_le_add_left (Nat.le_add_right ms ms') m.clock) (m.live id)
  rw [later, later, later, Nat.add_assoc, hlive]

end LiveMap

namespace MemoryHost

def liveMap (h : MemoryHost) : LiveMap where
  live := h.store.live h.clock
  ttl := h.store.ttl
  clock := h.clock
  used := h.used

def later (h : MemoryHost) (ms : Nat) : MemoryHost := { h with clock := h.clock + ms }

variable {h h' : MemoryHost} {fresh id : SessionId} {x : Session}

/-! ### The answers of a host -/

theorem put_of_not_writable {s : MemoryStore} {now : Uptime}
    (hw : ¬now / 1000 + s.ttl ≤ Uptime.lastSecond) (x : Session) : s.put now x = .error {} := by
  rw [MemoryStore.put, Uptime.addSeconds, if_neg hw]
  rfl

theorem perform_of_error {c : StoreCall} {e : ClockOverflow}
    (hrun : (c.on (MemoryStore.sessionStore (pure h.clock) (pure fresh) :
      SessionStore (StateT MemoryStore (Except ClockOverflow)))).run h.store = .error e) :
    h.perform ⟨0, fresh⟩ c = none := by
  have hnow : (c.on (MemoryStore.sessionStore (pure (h.clock + 0)) (pure fresh) :
      SessionStore (StateT MemoryStore (Except ClockOverflow)))).run h.store = .error e := hrun
  rw [perform, hnow]
  split <;> rfl

theorem perform_of_ok {c : StoreCall} {r : c.Reply} {s : MemoryStore}
    (hfresh : ¬(c = .create ∧ fresh ∈ h.used))
    (hrun : (c.on (MemoryStore.sessionStore (pure h.clock) (pure fresh) :
      SessionStore (StateT MemoryStore (Except ClockOverflow)))).run h.store = .ok (r, s)) :
    h.perform ⟨0, fresh⟩ c =
      some (r, ⟨s, h.clock, if c = .create then fresh :: h.used else h.used⟩) := by
  have hnow : (c.on (MemoryStore.sessionStore (pure (h.clock + 0)) (pure fresh) :
      SessionStore (StateT MemoryStore (Except ClockOverflow)))).run h.store = .ok (r, s) := hrun
  rw [perform, if_neg hfresh, hnow]
  rfl

theorem run_create (now : Uptime) (fresh : SessionId) (s : MemoryStore) :
    (StoreCall.create.on (MemoryStore.sessionStore (pure now) (pure fresh) :
      SessionStore (StateT MemoryStore (Except ClockOverflow)))).run s =
      (s.create now fresh).map fun p => (.ok p.1, p.2) := by
  have hupdate : (StoreCall.create.on (MemoryStore.sessionStore (pure now) (pure fresh) :
      SessionStore (StateT MemoryStore (Except ClockOverflow)))).run s =
      ((MemoryStore.update fun s => s.create now fresh :
        StateT MemoryStore (Except ClockOverflow) Session).run s >>= fun p =>
          pure (.ok p.1, p.2)) := rfl
  rw [hupdate, MemoryStore.run_update]
  rfl

theorem run_save (now : Uptime) (fresh : SessionId) (x : Session) (s : MemoryStore) :
    ((StoreCall.save x).on (MemoryStore.sessionStore (pure now) (pure fresh) :
      SessionStore (StateT MemoryStore (Except ClockOverflow)))).run s = s.save now x :=
  MemoryStore.run_update _ _

theorem perform_create : h.perform ⟨0, fresh⟩ .create =
    if fresh ∈ h.used ∨ ¬h.liveMap.Writable then none
    else some (.ok (.fresh fresh), ⟨(h.store.purge h.clock).insert fresh
      ⟨.fresh fresh, h.clock + 1000 * h.store.ttl⟩, h.clock, fresh :: h.used⟩) := by
  by_cases hfresh : fresh ∈ h.used
  · rw [if_pos (.inl hfresh), perform, if_pos ⟨rfl, hfresh⟩]
  by_cases hw : h.liveMap.Writable
  · have hdeadline : h.clock / 1000 + h.store.ttl ≤ Uptime.lastSecond := hw
    rw [if_neg (by simp [hfresh, hw])]
    refine perform_of_ok (fun hmem => hfresh hmem.2) ?_
    rw [run_create, MemoryStore.create_eq hdeadline]
    rfl
  · have hdeadline : ¬h.clock / 1000 + (h.store.purge h.clock).ttl ≤ Uptime.lastSecond := hw
    rw [if_pos (.inr hw)]
    refine perform_of_error (e := {}) ?_
    rw [run_create, MemoryStore.create, put_of_not_writable hdeadline]
    rfl

theorem perform_get : h.perform ⟨0, fresh⟩ (.get id) =
    some (.ok (h.store.get h.clock id).1, ⟨(h.store.get h.clock id).2, h.clock, h.used⟩) := rfl

theorem perform_save : h.perform ⟨0, fresh⟩ (.save x) =
    if (h.store.live h.clock x.id).isSome then
      if h.liveMap.Writable then
        some (.ok (), ⟨h.store.insert x.id ⟨x, h.clock + 1000 * h.store.ttl⟩, h.clock, h.used⟩)
      else none
    else some (.error .sessionNotFound, h) := by
  have hcall : ¬(StoreCall.save x = .create ∧ fresh ∈ h.used) := by simp
  cases hlive : h.store.live h.clock x.id with
  | none =>
    refine perform_of_ok hcall ?_
    rw [run_save, MemoryStore.save_eq_of_missing hlive]
  | some e =>
    have hsome : (h.store.live h.clock x.id).isSome := by rw [hlive]; rfl
    rw [Option.isSome_some, if_pos rfl]
    by_cases hw : h.liveMap.Writable
    · have hdeadline : h.clock / 1000 + h.store.ttl ≤ Uptime.lastSecond := hw
      rw [if_pos hw]
      refine perform_of_ok hcall ?_
      rw [run_save, MemoryStore.save_eq_of_live hdeadline hsome]
    · have hdeadline : ¬h.clock / 1000 + h.store.ttl ≤ Uptime.lastSecond := hw
      rw [if_neg hw]
      refine perform_of_error (e := {}) ?_
      rw [run_save, MemoryStore.save_of_live hsome, put_of_not_writable hdeadline]
      rfl

theorem perform_invalidate : h.perform ⟨0, fresh⟩ (.invalidate id) =
    some (.ok (), ⟨h.store.erase id, h.clock, h.used⟩) := rfl

/-! ### What shows of a host -/

variable {turn : MemoryTurn} {c : StoreCall} {r : c.Reply}

theorem liveMap_later (h : MemoryHost) (ms : Nat) :
    (h.later ms).liveMap = h.liveMap.later ms := by
  have hlive : h.store.live (h.clock + ms) = fun id =>
      (h.store.live h.clock id).filter (·.isLive (h.clock + ms)) := by
    funext id
    exact MemoryStore.live_later (Nat.le_add_right ..)
  exact congrArg (fun live => (⟨live, h.store.ttl, h.clock + ms, h.used⟩ : LiveMap)) hlive

theorem liveMap_purge (hs : h.store.Sound) :
    liveMap { h with store := h.store.purge h.clock } = h.liveMap :=
  congrArg (fun live => (⟨live, h.store.ttl, h.clock, h.used⟩ : LiveMap))
    (MemoryStore.live_purge hs)

theorem liveMap_get (id : SessionId) :
    liveMap { h with store := (h.store.get h.clock id).2 } = h.liveMap := by
  show (⟨(h.store.get h.clock id).2.live h.clock, (h.store.get h.clock id).2.ttl, h.clock,
    h.used⟩ : LiveMap) = _
  rw [MemoryStore.live_get, MemoryStore.ttl_get]
  rfl

theorem liveMap_insert (x : Session) : liveMap { h with
    store := h.store.insert x.id ⟨x, h.clock + 1000 * h.store.ttl⟩ } =
      h.liveMap.leave x.id (some x) :=
  congrArg (fun live => (⟨live, h.store.ttl, h.clock, h.used⟩ : LiveMap))
    (MemoryStore.live_insert_eq _)

theorem liveMap_erase (id : SessionId) :
    liveMap { h with store := h.store.erase id } = h.liveMap.leave id none :=
  congrArg (fun live => (⟨live, h.store.ttl, h.clock, h.used⟩ : LiveMap))
    (MemoryStore.live_invalidate h.store h.clock id)

/-- A call that is made at once is a call of the live map. -/
theorem perform_liveMap_now (hs : h.store.Sound) (fresh : SessionId) (c : StoreCall) :
    (h.perform ⟨0, fresh⟩ c).map (fun p => (p.1, p.2.liveMap)) = h.liveMap.call fresh c := by
  cases c with
  | create =>
    -- The sweep before a session is made drops nothing that is live.
    have hinsert : liveMap ⟨(h.store.purge h.clock).insert fresh
        ⟨.fresh fresh, h.clock + 1000 * h.store.ttl⟩, h.clock, fresh :: h.used⟩ =
          { h.liveMap.leave fresh (some (.fresh fresh)) with used := fresh :: h.used } := by
      rw [← liveMap_purge hs]
      exact congrArg (fun m : LiveMap => { m with used := fresh :: h.used })
        (liveMap_insert (h := { h with store := h.store.purge h.clock }) (.fresh fresh))
    rw [perform_create, apply_ite (Option.map _), Option.map_some, hinsert]
    rfl
  | get id =>
    rw [perform_get, Option.map_some, liveMap_get, MemoryStore.get_fst]
    rfl
  | save x =>
    rw [perform_save, apply_ite (Option.map _), apply_ite (Option.map _), Option.map_some,
      Option.map_some, liveMap_insert]
    rfl
  | invalidate id =>
    rw [perform_invalidate, Option.map_some, liveMap_erase]
    rfl

/-- A call of a host is a call of its live map. -/
theorem perform_liveMap (hs : h.store.Sound) (turn : MemoryTurn) (c : StoreCall) :
    (h.perform turn c).map (fun p => (p.1, p.2.liveMap)) =
      (h.liveMap.later turn.wait).call turn.fresh c := by
  rw [← liveMap_later]
  exact perform_liveMap_now (h := h.later turn.wait) hs turn.fresh c

theorem call_of_perform (hs : h.store.Sound) (hperform : h.perform turn c = some (r, h')) :
    (h.liveMap.later turn.wait).call turn.fresh c = some (r, h'.liveMap) := by
  rw [← perform_liveMap hs, hperform]
  rfl

theorem exists_perform_of_call {m : LiveMap} (hs : h.store.Sound) (turn : MemoryTurn)
    (hcall : (h.liveMap.later turn.wait).call turn.fresh c = some (r, m)) :
    ∃ h', h.perform turn c = some (r, h') ∧ h'.liveMap = m := by
  rw [← perform_liveMap hs] at hcall
  obtain ⟨p, hperform, heq⟩ := Option.map_eq_some_iff.1 hcall
  obtain ⟨rfl, rfl⟩ := Prod.mk.inj heq
  exact ⟨p.2, hperform, rfl⟩

end MemoryHost

end WebLogin
