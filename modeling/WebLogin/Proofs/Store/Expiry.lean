/-
The store in memory over its whole history.

What a store answers depends on its history alone: under an id stands what the last successful call
that concerned the id has left there, until its time to live is over. Entries that have expired may
linger, and `MemoryHost.run_expiringMap` says that this shows nowhere, whatever was done before.

* `MemoryHost.run_liveMap` — whatever is done to a host is done to its live map;
* `LiveMap.Recounts.act` — what one action does to the history and to the live entries;
* `LiveMap.Lost.run` — a session that is lost stays lost;
* `MemoryHost.run_expiringMap` — the store is a map whose entries expire.
-/
import WebLogin.Proofs.Store.LiveMap

namespace WebLogin

/-- What a successful call leaves under an id, if the call concerned the id: a session that it has
written, or nothing. -/
def StoreExchange.leaves? (id : SessionId) : StoreExchange → Option (Option Session)
  | ⟨.create, .ok x⟩ => if x.id = id then some (some x) else none
  | ⟨.save x, .ok ()⟩ => if x.id = id then some (some x) else none
  | ⟨.invalidate id', .ok ()⟩ => if id' = id then some none else none
  | _ => none

/-- Calls with their replies and the moments at which they were made. -/
abbrev History := List (Uptime × StoreExchange)

/-- The last successful call that concerned an id: what it has left there, and when. -/
def lastChange (id : SessionId) (log : History) : Option (Option Session × Uptime) :=
  log.reverse.findSome? fun e => (e.2.leaves? id).map (·, e.1)

theorem lastChange_concat (id : SessionId) (log : History) (e : Uptime × StoreExchange) :
    lastChange id (log ++ [e]) =
      ((e.2.leaves? id).map (·, e.1)).or (lastChange id log) := by
  rw [lastChange, List.reverse_append, List.reverse_singleton, List.singleton_append,
    List.findSome?_cons, lastChange]
  cases (e.2.leaves? id).map (·, e.1) <;> rfl

/-- What is done to a host. -/
inductive MemoryAction where
  /-- A call; a session that it makes gets this id. -/
  | call (c : StoreCall) (fresh : SessionId)
  | purge
  | wait (ms : Nat)

namespace MemoryAction

def drawn : MemoryAction → List SessionId
  | call .create fresh => [fresh]
  | _ => []

def duration : MemoryAction → Nat
  | wait ms => ms
  | _ => 0

def elapsed : List MemoryAction → Nat
  | [] => 0
  | a :: rest => a.duration + elapsed rest

end MemoryAction

namespace MemoryHost

open MemoryAction (elapsed)

variable {h h' : MemoryHost} {id fresh : SessionId} {x : Session}

def begun (ttl : Nat) (now : Uptime) : MemoryHost := ⟨{ ttl }, now, []⟩

/-- Does something to a host, and records it if it is a call. -/
def act (h : MemoryHost) : MemoryAction → Option (History × MemoryHost)
  | .call c fresh => (h.perform ⟨0, fresh⟩ c).map fun p => ([(h.clock, ⟨c, p.1⟩)], p.2)
  | .purge => some ([], { h with store := h.store.purge h.clock })
  | .wait ms => some ([], { h with clock := h.clock + ms })

def run : List MemoryAction → MemoryHost → Option (History × MemoryHost)
  | [], h => some ([], h)
  | a :: rest, h => (h.act a).bind fun p => (run rest p.2).map fun q => (p.1 ++ q.1, q.2)

/-- What a call that makes no session would be answered with now. -/
def answer (h : MemoryHost) (c : StoreCall) : Option c.Reply := (h.perform ⟨0, ⟨0⟩⟩ c).map Prod.fst

/-- A look-up of an id would find a session now. -/
def Resolves (h : MemoryHost) (id : SessionId) : Prop :=
  ∃ x, h.answer (.get id) = some (.ok (some x))

theorem act_create : h.act (.call .create fresh) =
    if fresh ∈ h.used ∨ ¬h.liveMap.Writable then none
    else some ([(h.clock, ⟨.create, .ok (.fresh fresh)⟩)],
      ⟨(h.store.purge h.clock).insert fresh ⟨.fresh fresh, h.clock + 1000 * h.store.ttl⟩,
        h.clock, fresh :: h.used⟩) := by
  rw [act, perform_create, apply_ite (Option.map _)]
  rfl

theorem answer_get : h.answer (.get id) =
    some (.ok ((h.store.live h.clock id).map MemoryEntry.session)) := by
  rw [answer, perform_get, Option.map_some, MemoryStore.get_fst]

theorem resolves_iff : h.Resolves id ↔ (h.store.live h.clock id).isSome := by
  rw [Resolves, answer_get]
  cases h.store.live h.clock id <;> simp

theorem answer_save (hw : h.liveMap.Writable) : h.answer (.save x) =
    some (if (h.store.live h.clock x.id).isSome then .ok () else .error .sessionNotFound) := by
  rw [answer, perform_save]
  by_cases hx : (h.store.live h.clock x.id).isSome
  · rw [if_pos hx, if_pos hx, if_pos hw]
    rfl
  · rw [if_neg hx, if_neg hx]
    rfl

end MemoryHost

/-! ### Actions on live maps -/

namespace LiveMap

def act (m : LiveMap) : MemoryAction → Option (History × LiveMap)
  | .call c fresh => (m.call fresh c).map fun p => ([(m.clock, ⟨c, p.1⟩)], p.2)
  | .purge => some ([], m)
  | .wait ms => some ([], m.later ms)

def run : List MemoryAction → LiveMap → Option (History × LiveMap)
  | [], m => some ([], m)
  | a :: rest, m => (m.act a).bind fun p => (run rest p.2).map fun q => (p.1 ++ q.1, q.2)

end LiveMap

namespace MemoryHost

variable {h h' : MemoryHost} {a : MemoryAction} {actions : List MemoryAction} {log : History}

theorem act_liveMap (hs : h.store.Sound) (a : MemoryAction) :
    (h.act a).map (fun p => (p.1, p.2.liveMap)) = h.liveMap.act a := by
  cases a with
  | call c fresh =>
    rw [act, LiveMap.act, ← perform_liveMap_now hs, Option.map_map, Option.map_map]
    rfl
  | purge => exact congrArg (fun m => some ([], m)) (liveMap_purge hs)
  | wait ms => exact congrArg (fun m => some ([], m)) (liveMap_later h ms)

theorem sound_of_act (hs : h.store.Sound) (hact : h.act a = some (log, h')) :
    h'.store.Sound := by
  cases a with
  | call c fresh =>
    obtain ⟨p, hperform, heq⟩ := Option.map_eq_some_iff.1 hact
    obtain ⟨-, rfl⟩ := Prod.mk.inj heq
    exact (perform_answers hperform).sound hs
  | purge =>
    obtain ⟨-, rfl⟩ := Prod.mk.inj (Option.some.inj hact)
    exact hs.purge h.clock
  | wait ms =>
    obtain ⟨-, rfl⟩ := Prod.mk.inj (Option.some.inj hact)
    exact hs

/-- Whatever is done to a host is done to its live map. -/
theorem run_liveMap (hs : h.store.Sound) (actions : List MemoryAction) :
    (h.run actions).map (fun p => (p.1, p.2.liveMap)) = h.liveMap.run actions := by
  induction actions generalizing h with
  | nil => rfl
  | cons a rest ih =>
    rw [run, LiveMap.run, ← act_liveMap hs]
    cases hact : h.act a with
    | none => rfl
    | some p =>
      have hrest := ih (sound_of_act hs hact)
      rw [Option.bind_some, Option.map_some, Option.bind_some, ← hrest, Option.map_map,
        Option.map_map]
      rfl

theorem sound_of_run (hs : h.store.Sound) (hrun : h.run actions = some (log, h')) :
    h'.store.Sound := by
  induction actions generalizing h log with
  | nil =>
    obtain ⟨-, rfl⟩ := Prod.mk.inj (Option.some.inj hrun)
    exact hs
  | cons a rest ih =>
    obtain ⟨p, hact, hrest⟩ := Option.bind_eq_some_iff.1 hrun
    obtain ⟨q, hq, heq⟩ := Option.map_eq_some_iff.1 hrest
    obtain ⟨-, rfl⟩ := Prod.mk.inj heq
    exact ih (sound_of_act hs hact) hq

/-- Hosts with the same live entries record the same from then on. -/
theorem run_eq_of_liveMap_eq (hs : h.store.Sound) (hs' : h'.store.Sound)
    (hsame : h'.liveMap = h.liveMap) (actions : List MemoryAction) :
    (h'.run actions).map Prod.fst = (h.run actions).map Prod.fst := by
  have hfst {h : MemoryHost} (hs : h.store.Sound) :
      (h.run actions).map Prod.fst = (h.liveMap.run actions).map Prod.fst := by
    rw [← run_liveMap hs, Option.map_map]
    rfl
  rw [hfst hs, hfst hs', hsame]

theorem sound_begun (ttl : Nat) (now : Uptime) : (begun ttl now).store.Sound :=
  MemoryStore.sound_empty ttl

end MemoryHost

/-! ### What the history says -/

namespace LiveMap

open MemoryAction (elapsed)

variable {m m' : LiveMap} {log : History} {id : SessionId} {x : Session}

/-- A history accounts for the live entries and for the ids in use. -/
structure Recounts (m : LiveMap) (log : History) : Prop where
  live : ∀ id, m.live id = (lastChange id log).bind fun c =>
    (c.1.map (m.entryAt c.2)).filter (·.isLive m.clock)
  used : ∀ id, id ∈ m.used ↔ ∃ t, (t, ⟨.create, .ok (.fresh id)⟩) ∈ log
  issued : ∀ id x t, lastChange id log = some (some x, t) → id ∈ m.used

theorem Recounts.begun (ttl : Nat) (now : Uptime) :
    (MemoryHost.begun ttl now).liveMap.Recounts [] where
  live id := rfl
  used id := by simp [MemoryHost.begun, MemoryHost.liveMap]
  issued id x t hx := by cases hx

theorem Recounts.live_iff (hr : m.Recounts log) :
    (m.live id).map MemoryEntry.session = some x ↔
      ∃ t, lastChange id log = some (some x, t) ∧ m.clock < t + 1000 * m.ttl := by
  rw [hr.live]
  cases hlast : lastChange id log with
  | none => simp
  | some c =>
    obtain ⟨left, t⟩ := c
    cases left with
    | none => simp
    | some y =>
      rw [Option.bind_some, Option.map_some, Option.filter_some, MemoryEntry.isLive, entryAt]
      by_cases hlt : m.clock < t + 1000 * m.ttl
      · rw [decide_eq_true hlt, if_pos rfl, Option.map_some, Option.some.injEq]
        constructor
        · rintro rfl
          exact ⟨t, rfl, hlt⟩
        · rintro ⟨t', hyx, -⟩
          cases hyx
          rfl
      · rw [decide_eq_false hlt, if_neg Bool.false_ne_true, Option.map_none]
        constructor
        · intro hx
          cases hx
        · rintro ⟨t', hyx, hlt'⟩
          cases hyx
          exact absurd hlt' hlt

/-- One more call is accounted for if it has left what the map holds now. -/
theorem Recounts.concat (hr : m.Recounts log) {e : StoreExchange} (httl : m'.ttl = m.ttl)
    (hclock : m'.clock = m.clock)
    (hlive : ∀ id, m'.live id = ((e.leaves? id).map fun left =>
      (left.map (m.entryAt m.clock)).filter (·.isLive m.clock)).getD (m.live id))
    (hused : ∀ id, id ∈ m'.used ↔ id ∈ m.used ∨ e = ⟨.create, .ok (.fresh id)⟩)
    (hissued : ∀ id x, e.leaves? id = some (some x) → id ∈ m'.used) :
    m'.Recounts (log ++ [(m.clock, e)]) where
  live id := by
    have hentry (t : Uptime) : m'.entryAt t = m.entryAt t := by
      funext x
      rw [entryAt, entryAt, httl]
    simp only [lastChange_concat, hentry, hlive, hclock]
    cases e.leaves? id with
    | none => exact hr.live id
    | some left => rfl
  used id := by
    rw [hused, hr.used]
    constructor
    · rintro (⟨t, ht⟩ | rfl)
      · exact ⟨t, List.mem_append_left _ ht⟩
      · exact ⟨m.clock, List.mem_append_right _ (List.mem_singleton.2 rfl)⟩
    · rintro ⟨t, ht⟩
      rcases List.mem_append.1 ht with ht | ht
      · exact .inl ⟨t, ht⟩
      · exact .inr (Prod.mk.inj (List.mem_singleton.1 ht)).2.symm
  issued id x t hx := by
    rw [lastChange_concat] at hx
    cases hleaves : e.leaves? id with
    | none =>
      rw [hleaves] at hx
      exact (hused id).2 (.inl (hr.issued id x t hx))
    | some left =>
      rw [hleaves] at hx
      obtain ⟨rfl, -⟩ := Prod.mk.inj (Option.some.inj hx)
      exact hissued id x hleaves

theorem live_leave {e : StoreExchange} {left : Option Session}
    (hleaves : ∀ id', e.leaves? id' = if id = id' then some left else none) (id' : SessionId) :
    (m.leave id left).live id' = ((e.leaves? id').map fun left =>
      (left.map (m.entryAt m.clock)).filter (·.isLive m.clock)).getD (m.live id') := by
  rw [hleaves]
  show Function.update m.live id _ id' = _
  rw [Function.update_apply]
  by_cases hid : id' = id
  · rw [if_pos hid, if_pos hid.symm]
    rfl
  · rw [if_neg hid, if_neg (Ne.symm hid)]
    rfl

theorem Recounts.used_of_live (hr : m.Recounts log) (hx : (m.live id).isSome) : id ∈ m.used := by
  obtain ⟨e, he⟩ := Option.isSome_iff_exists.1 hx
  obtain ⟨t, hlast, -⟩ := hr.live_iff.1 (by rw [he, Option.map_some])
  exact hr.issued id e.session t hlast

/-- What is live later was written at the same moment as what is live now. -/
theorem Recounts.later (hr : m.Recounts log) (ms : Nat) : (m.later ms).Recounts log where
  live id := by
    show (m.live id).filter (·.isLive (m.clock + ms)) = _
    rw [hr.live]
    cases lastChange id log with
    | none => rfl
    | some c =>
      rw [Option.bind_some, Option.bind_some,
        MemoryStore.filter_isLive_later (Nat.le_add_right ..)]
      rfl
  used := hr.used
  issued := hr.issued

/-- One action: there is an answer, and the history still accounts for the map. -/
theorem Recounts.act (hr : m.Recounts log) (a : MemoryAction)
    (hfresh : ∀ id ∈ a.drawn, id ∉ m.used) (hw : m.Writable) :
    ∃ log' m', m.act a = some (log', m') ∧ m'.Recounts (log ++ log') ∧
      m'.ttl = m.ttl ∧ m'.clock = m.clock + a.duration ∧
      ∀ id ∈ m'.used, id ∈ m.used ∨ id ∈ a.drawn := by
  cases a with
  | wait ms =>
    refine ⟨[], _, rfl, ?_, rfl, rfl, fun id hid => .inl hid⟩
    rw [List.append_nil]
    exact hr.later ms
  | purge =>
    refine ⟨[], _, rfl, ?_, rfl, rfl, fun id hid => .inl hid⟩
    rwa [List.append_nil]
  | call c fresh =>
    cases c with
    | create =>
      have hnew : fresh ∉ m.used := hfresh fresh (List.mem_singleton.2 rfl)
      rw [LiveMap.act, call, if_neg (by simp [hnew, hw])]
      refine ⟨_, _, rfl, hr.concat rfl rfl (live_leave fun _ => rfl) ?_ ?_, rfl, rfl, ?_⟩
      · intro id
        simp [Session.fresh, eq_comm, or_comm]
      · intro id x hx
        simp only [StoreExchange.leaves?] at hx
        split at hx
        · rename_i hid
          exact hid ▸ List.mem_cons_self
        · cases hx
      · intro id hid
        exact (List.mem_cons.1 hid).symm.imp_right List.mem_singleton.2
    | get id =>
      refine ⟨_, _, rfl, hr.concat rfl rfl (fun _ => rfl) (by simp) ?_, rfl, rfl,
        fun id hid => .inl hid⟩
      intro id' x hx
      cases hx
    | save x =>
      rw [LiveMap.act, call]
      by_cases hx : (m.live x.id).isSome
      · rw [if_pos hx, if_pos hw]
        refine ⟨_, _, rfl, hr.concat rfl rfl (live_leave fun _ => rfl) ?_ ?_, rfl, rfl,
          fun id hid => .inl hid⟩
        · intro id
          simp [leave]
        · intro id y hy
          simp only [StoreExchange.leaves?] at hy
          split at hy
          · rename_i hid
            exact hid ▸ hr.used_of_live hx
          · cases hy
      · rw [if_neg hx]
        refine ⟨_, _, rfl, hr.concat rfl rfl (fun _ => rfl) (by simp) ?_, rfl, rfl,
          fun id hid => .inl hid⟩
        intro id y hy
        cases hy
    | invalidate id =>
      refine ⟨_, _, rfl, hr.concat rfl rfl (live_leave fun _ => rfl) (by simp [leave]) ?_, rfl,
        rfl, fun id hid => .inl hid⟩
      intro id' x hx
      simp only [StoreExchange.leaves?] at hx
      split at hx <;> cases hx

/-- A run: it comes to its end, and its history accounts for the map that it leaves. -/
theorem Recounts.run (hr : m.Recounts log) {actions : List MemoryAction}
    (hfresh : (actions.flatMap MemoryAction.drawn).Nodup)
    (hunused : ∀ id ∈ actions.flatMap MemoryAction.drawn, id ∉ m.used)
    (hw : (m.clock + elapsed actions) / 1000 + m.ttl ≤ Uptime.lastSecond) :
    ∃ log' m', m.run actions = some (log', m') ∧ m'.Recounts (log ++ log') ∧
      m'.ttl = m.ttl ∧ m'.clock = m.clock + elapsed actions := by
  induction actions generalizing m log with
  | nil => exact ⟨[], m, rfl, by rwa [List.append_nil], rfl, rfl⟩
  | cons a rest ih =>
    rw [List.flatMap_cons, List.nodup_append] at hfresh
    simp only [List.flatMap_cons, List.mem_append] at hunused
    obtain ⟨-, hrest, hapart⟩ := hfresh
    have helapsed : elapsed (a :: rest) = a.duration + elapsed rest := rfl
    have hnow : m.Writable :=
      Nat.le_trans (Nat.add_le_add_right (Nat.div_le_div_right (Nat.le_add_right ..)) _) hw
    obtain ⟨log₁, m₁, hact, hr₁, httl, hclock, hused⟩ :=
      hr.act a (fun id hid => hunused id (.inl hid)) hnow
    -- What is drawn later is neither in use yet nor drawn by this action.
    have hlater : ∀ id ∈ rest.flatMap MemoryAction.drawn, id ∉ m₁.used := by
      intro id hid hmem
      rcases hused id hmem with hmem | hmem
      · exact hunused id (.inr hid) hmem
      · exact hapart id hmem id hid rfl
    have hw₁ : (m₁.clock + elapsed rest) / 1000 + m₁.ttl ≤ Uptime.lastSecond := by
      rw [hclock, httl, Nat.add_assoc, ← helapsed]
      exact hw
    obtain ⟨log₂, m₂, hrun, hr₂, httl₂, hclock₂⟩ := ih hr₁ hrest hlater hw₁
    refine ⟨log₁ ++ log₂, m₂, ?_, ?_, httl₂.trans httl, ?_⟩
    · rw [LiveMap.run, hact, Option.bind_some, hrun, Option.map_some]
    · rw [← List.append_assoc]
      exact hr₂
    · rw [hclock₂, hclock, Nat.add_assoc, ← helapsed]

/-! ### Sessions that are lost -/

/-- An id has been given to a session that is not there any more. -/
structure Lost (m : LiveMap) (id : SessionId) : Prop where
  used : id ∈ m.used
  live : m.live id = none

theorem Lost.leave (hl : m.Lost id) {id' : SessionId} (hne : id ≠ id') (left : Option Session) :
    (m.leave id' left).live id = none :=
  (Function.update_of_ne hne _ _).trans hl.live

theorem Lost.act (hl : m.Lost id) {a : MemoryAction} (hact : m.act a = some (log, m')) :
    m'.Lost id := by
  cases a with
  | wait ms =>
    obtain ⟨-, rfl⟩ := Prod.mk.inj (Option.some.inj hact)
    refine ⟨hl.used, ?_⟩
    show (m.live id).filter _ = none
    rw [hl.live, Option.filter_none]
  | purge =>
    obtain ⟨-, rfl⟩ := Prod.mk.inj (Option.some.inj hact)
    exact hl
  | call c fresh =>
    obtain ⟨p, hcall, heq⟩ := Option.map_eq_some_iff.1 hact
    obtain ⟨-, rfl⟩ := Prod.mk.inj heq
    cases c with
    | create =>
      rw [call] at hcall
      split at hcall
      · cases hcall
      · rename_i hcond
        obtain rfl := Option.some.inj hcall
        -- A new session gets an id that was not in use.
        have hne : id ≠ fresh := fun heq => hcond (.inl (heq ▸ hl.used))
        exact ⟨List.mem_cons_of_mem _ hl.used, hl.leave hne _⟩
    | get id' =>
      obtain rfl := Option.some.inj hcall
      exact hl
    | save x =>
      rw [call] at hcall
      split at hcall
      · rename_i hx
        split at hcall
        · obtain rfl := Option.some.inj hcall
          -- A session is only saved while it is there.
          have hne : id ≠ x.id := by
            rintro rfl
            rw [hl.live] at hx
            cases hx
          exact ⟨hl.used, hl.leave hne _⟩
        · cases hcall
      · obtain rfl := Option.some.inj hcall
        exact hl
    | invalidate id' =>
      obtain rfl := Option.some.inj hcall
      refine ⟨hl.used, ?_⟩
      by_cases hid : id = id'
      · rw [hid]
        exact Function.update_self ..
      · exact hl.leave hid none

theorem Lost.run (hl : m.Lost id) {actions : List MemoryAction}
    (hrun : m.run actions = some (log, m')) : m'.Lost id := by
  induction actions generalizing m log with
  | nil =>
    obtain ⟨-, rfl⟩ := Prod.mk.inj (Option.some.inj hrun)
    exact hl
  | cons a rest ih =>
    obtain ⟨p, hact, hrest⟩ := Option.bind_eq_some_iff.1 hrun
    obtain ⟨q, hq, heq⟩ := Option.map_eq_some_iff.1 hrest
    obtain ⟨-, rfl⟩ := Prod.mk.inj heq
    exact ih (hl.act hact) hq

end LiveMap

namespace MemoryHost

open MemoryAction (elapsed)

variable {h h' : MemoryHost} {log : History}

/-! ### The expiring map -/

/-- What only looks: a look-up, a sweep, or a saving that is refused. -/
inductive OnlyLooks (h : MemoryHost) : MemoryAction → Prop where
  | get (id fresh : SessionId) : h.OnlyLooks (.call (.get id) fresh)
  | purge : h.OnlyLooks .purge
  | save {x : Session} (fresh : SessionId) (hx : ¬h.Resolves x.id) :
      h.OnlyLooks (.call (.save x) fresh)

theorem OnlyLooks.act {a : MemoryAction} (ha : h.OnlyLooks a) (hs : h.store.Sound) :
    ∃ log h', h.act a = some (log, h') ∧ h'.liveMap = h.liveMap := by
  cases ha with
  | get id fresh => exact ⟨_, _, rfl, liveMap_get id⟩
  | purge => exact ⟨_, _, rfl, liveMap_purge hs⟩
  | save fresh hx =>
    rw [resolves_iff] at hx
    rw [MemoryHost.act, perform_save, if_neg hx]
    exact ⟨_, _, rfl, rfl⟩

/-- The store of a host is a map whose entries expire, of which its history gives the content. -/
structure ExpiringMap (ttl : Nat) (log : History) (h : MemoryHost) : Prop where
  /-- A look-up finds what the last successful call has left, until its time is over. -/
  get : ∀ id, ∃ found, h.answer (.get id) = some (.ok found) ∧ ∀ x, found = some x ↔
    ∃ t, lastChange id log = some (some x, t) ∧ h.clock < t + 1000 * ttl
  /-- A session is saved if a look-up would find one, and otherwise it is refused. -/
  save : ∀ x : Session, (h.Resolves x.id → h.answer (.save x) = some (.ok ())) ∧
    (¬h.Resolves x.id → h.answer (.save x) = some (.error .sessionNotFound))
  /-- What only looks makes no difference to anything later. -/
  looks : ∀ a, h.OnlyLooks a → ∃ log' h', h.act a = some (log', h') ∧
    ∀ later, (h'.run later).map Prod.fst = (h.run later).map Prod.fst
  /-- A session that is found was made under its id. -/
  issued : ∀ id, h.Resolves id → ∃ t, (t, ⟨.create, .ok (.fresh id)⟩) ∈ log
  /-- A session that was made and is not found any more is never found again. -/
  gone : ∀ id t, (t, ⟨.create, .ok (.fresh id)⟩) ∈ log → ¬h.Resolves id →
    ∀ later log' h', h.run later = some (log', h') → ¬h'.Resolves id
  /-- Every entry stands under the id of its session. -/
  own : ∀ id e, h.store.find? id = some e → e.session.id = id
  /-- Once a session was made, every entry is live, but for a new one that has no time to live. -/
  swept : ∀ fresh log' h', h.act (.call .create fresh) = some (log', h') →
    ∀ id e, h'.store.find? id = some e → (h'.clock < e.deadline ↔ id ≠ fresh ∨ 0 < ttl)

theorem expiringMap_of_recounts (hs : h.store.Sound) (hr : h.liveMap.Recounts log)
    (hw : h.liveMap.Writable) : h.ExpiringMap h.store.ttl log where
  get id := ⟨_, answer_get, fun _ => hr.live_iff⟩
  save x := by
    rw [resolves_iff, answer_save hw]
    exact ⟨fun hx => by rw [if_pos hx], fun hx => by rw [if_neg hx]⟩
  looks a ha := by
    obtain ⟨log', h', hact, hsame⟩ := ha.act hs
    exact ⟨log', h', hact, run_eq_of_liveMap_eq hs (sound_of_act hs hact) hsame⟩
  issued id hid := (hr.used id).1 (hr.used_of_live (resolves_iff.1 hid))
  gone id t ht hid later log' h' hrun hid' := by
    rw [resolves_iff, Option.not_isSome_iff_eq_none] at hid
    have hmap : h.liveMap.run later = some (log', h'.liveMap) := by
      rw [← run_liveMap hs, hrun]
      rfl
    have hlost : h.liveMap.Lost id := ⟨(hr.used id).2 ⟨t, ht⟩, hid⟩
    have hnone : h'.store.live h'.clock id = none := (hlost.run hmap).live
    rw [resolves_iff, hnone] at hid'
    cases hid'
  own := hs.id_eq
  swept fresh log' h' hact id e he := by
    rw [act_create] at hact
    split at hact
    · cases hact
    · obtain ⟨rfl, rfl⟩ := Prod.mk.inj (Option.some.inj hact)
      have hfind := he
      rw [MemoryStore.find?_insert, MemoryStore.find?_purge hs] at hfind
      by_cases hid : id = fresh
      · rw [if_pos hid] at hfind
        obtain rfl := Option.some.inj hfind
        show h.clock < h.clock + 1000 * h.store.ttl ↔ _
        simp only [hid, ne_eq, not_true_eq_false, false_or]
        exact Nat.lt_add_right_iff_pos.trans (Nat.mul_pos_iff_of_pos_left (by decide))
      · rw [if_neg hid, MemoryStore.live_eq_some_iff] at hfind
        exact ⟨fun _ => .inl hid, fun _ => hfind.2⟩

/-- Whatever is done to a store in memory, one thing after the other: it is a map whose entries
expire. The new ids do not repeat, and the clock can write every deadline. -/
theorem run_expiringMap {ttl : Nat} {now : Uptime} {actions : List MemoryAction}
    (hfresh : (actions.flatMap MemoryAction.drawn).Nodup)
    (hclock : (now + elapsed actions) / 1000 + ttl ≤ Uptime.lastSecond) :
    ∃ log h, (begun ttl now).run actions = some (log, h) ∧ h.ExpiringMap ttl log := by
  have hs := sound_begun ttl now
  obtain ⟨log, m, hmap, hr, httl, htime⟩ :=
    (LiveMap.Recounts.begun ttl now).run hfresh (fun _ _ hid => by cases hid) hclock
  rw [← run_liveMap hs] at hmap
  obtain ⟨p, hrun, heq⟩ := Option.map_eq_some_iff.1 hmap
  obtain ⟨log', h⟩ := p
  obtain ⟨rfl, rfl⟩ := Prod.mk.inj heq
  have hw : h.liveMap.Writable := by
    rw [LiveMap.Writable, htime, httl]
    exact hclock
  have hexpiring := expiringMap_of_recounts (sound_of_run hs hrun) hr hw
  have hsame : h.store.ttl = ttl := httl
  rw [hsame] at hexpiring
  exact ⟨log', h, hrun, hexpiring⟩

/-- A session is saved in the last moment of its life, and looked up in the first one after it. -/
def lastMoments : List MemoryAction :=
  [.call .create ⟨7⟩, .wait 59999, .call (.save ⟨⟨7⟩, some ⟨"alice", .empty⟩⟩) ⟨0⟩, .wait 60000,
    .call (.get ⟨7⟩) ⟨0⟩, .purge, .call .create ⟨8⟩]

theorem run_expiringMap_lastMoments : (lastMoments.flatMap MemoryAction.drawn).Nodup ∧
    (0 + elapsed lastMoments) / 1000 + 60 ≤ Uptime.lastSecond ∧
    ∃ log h, (begun 60 0).run lastMoments = some (log, h) ∧ h.ExpiringMap 60 log :=
  ⟨by decide, by decide, run_expiringMap (by decide) (by decide)⟩

/-- A session that is given no time to live has expired when it is made. -/
theorem create_expired : ∃ log h e, (begun 0 0).run [.call .create ⟨7⟩] = some (log, h) ∧
    h.store.find? ⟨7⟩ = some e ∧ ¬h.clock < e.deadline :=
  ⟨_, _, _, rfl, rfl, by decide⟩

end MemoryHost

end WebLogin
