/-
Clients that do not notice each other.

Several clients share a store in memory, each of them with any number of tasks, and the calls of all
tasks come in any order. A session is named only by the client that it was made for, so a client is
served as if it were alone: with its own turns only, and as late as they were, it is told the same.
The new ids may then be others, and the client is told the same under those.

* `LiveMap.Mirrors.foreign` — a call of somebody else touches nothing that a client may name;
* `LiveMap.Mirrors.call` — a call of its own is answered alike in both worlds;
* `Services.alone_of_run` — a client is told the same when it is alone.
-/
import WebLogin.Proofs.Concurrency.Service
import WebLogin.Proofs.Store.Expiry

namespace WebLogin

open Snapshot (own)

/-! ### The host -/

namespace MemoryHost

/-- Answers a call of a service. The clock on the wall is read off that of the host. -/
def attend (wall : Uptime → Timestamp) (turn : MemoryTurn) :
    (c : ServiceCall) → MemoryHost → Option (c.Reply × MemoryHost)
  | .store c, h => h.perform turn c
  | .time, h => some (wall (h.later turn.wait).clock, h.later turn.wait)
  | .request _, h => some ((), h.later turn.wait)
  | .tell _, h => some ((), h.later turn.wait)

/-- What a call of a service does to a host. -/
inductive Attends (h : MemoryHost) : ServiceExchange → MemoryHost → Prop where
  | store {c : StoreCall} {r : c.Reply} {h' : MemoryHost} :
      h.Answers h.clock ⟨c, r⟩ h' → h.Attends ⟨.store c, r⟩ h'
  | time (t : Timestamp) : h.Attends ⟨.time, t⟩ h
  | request (req : LoginRequest) : h.Attends ⟨.request req, ()⟩ h
  | tell (out : LoginOutcome) : h.Attends ⟨.tell out, ()⟩ h

variable {wall : Uptime → Timestamp} {turn : MemoryTurn} {h h' h₁ : MemoryHost}
  {e : ServiceExchange} {id : SessionId}

theorem attend_attends {c : ServiceCall} {r : c.Reply}
    (hattend : h.attend wall turn c = some (r, h')) : (h.later turn.wait).Attends ⟨c, r⟩ h' := by
  cases c with
  | store c =>
    -- The time before a call may as well pass first.
    have hperform : (h.later turn.wait).perform ⟨0, turn.fresh⟩ c = some (r, h') := hattend
    exact .store (perform_answers hperform)
  | time =>
    obtain ⟨rfl, rfl⟩ := Prod.mk.inj (Option.some.inj hattend)
    exact .time _
  | request req =>
    obtain ⟨rfl, rfl⟩ := Prod.mk.inj (Option.some.inj hattend)
    exact .request req
  | tell out =>
    obtain ⟨rfl, rfl⟩ := Prod.mk.inj (Option.some.inj hattend)
    exact .tell out

theorem Answers.used_iff {now : Uptime} {e : StoreExchange} (ha : h.Answers now e h') :
    id ∈ h'.used ↔ id ∈ h.used ∨
      ServiceExchange.issued? ⟨.store e.call, e.reply⟩ = some id := by
  cases ha with
  | create =>
    rw [List.mem_cons, or_comm]
    exact or_congr_right ⟨fun hid => congrArg some hid.symm, fun hid => (Option.some.inj hid).symm⟩
  | _ => exact (or_iff_left (by rintro ⟨⟩)).symm

theorem Attends.used_iff (ha : h.Attends e h') :
    id ∈ h'.used ↔ id ∈ h.used ∨ e.issued? = some id := by
  cases ha with
  | store hanswers => exact hanswers.used_iff
  | _ => exact (or_iff_left (by rintro ⟨⟩)).symm

theorem Attends.issued_notMem (ha : h.Attends e h') (hid : e.issued? = some id) : id ∉ h.used := by
  cases ha with
  | store hanswers =>
    cases hanswers with
    | create hfresh => exact Option.some.inj hid ▸ hfresh
    | _ => cases hid
  | _ => cases hid

theorem Attends.sound (ha : h.Attends e h') (hs : h.store.Sound) : h'.store.Sound := by
  cases ha with
  | store hanswers => exact hanswers.sound hs
  | _ => exact hs

theorem Attends.stored (ha : h.Attends e h') (hs : h.store.Sound)
    (hstored : ∀ id e, h.store.find? id = some e → id ∈ h.used) {entry : MemoryEntry}
    (hentry : h'.store.find? id = some entry) : id ∈ h'.used := by
  cases ha with
  | @store c r h' hanswers =>
    rcases hanswers.entries hs hentry with hwritten | ⟨hbefore, -⟩
    · rw [← (hanswers.sound hs).id_eq id entry hentry]
      rcases hanswers.written hwritten with ⟨-, hused⟩ | ⟨entry', hbefore⟩
      · exact hused
      · exact hanswers.used (hstored _ _ hbefore)
    · exact hanswers.used (hstored _ _ hbefore)
  | _ => exact hstored _ _ hentry

theorem Attends.sincere (ha : h.Attends e h') (hs : h.store.Sound) : Serving.Sincere e := by
  cases ha with
  | store hanswers =>
    cases hanswers with
    | get id =>
      rw [MemoryStore.get_fst]
      cases hlive : h.store.live h.clock id with
      | none => exact trivial
      | some e => exact hs.id_eq id e (MemoryStore.live_eq_some_iff.1 hlive).1
    | _ => exact trivial
  | _ => exact trivial

theorem Attends.clock (ha : h.Attends e h') : h'.clock = h.clock := by
  cases ha with
  | store hanswers => cases hanswers <;> rfl
  | _ => rfl

theorem Attends.ttl (ha : h.Attends e h') : h'.store.ttl = h.store.ttl := by
  cases ha with
  | store hanswers =>
    cases hanswers with
    | get id => exact MemoryStore.ttl_get ..
    | _ => rfl
  | _ => rfl

/-- A call leaves alone what it has not made and does not find. -/
theorem Attends.live_eq (ha : h.Attends e h') (hs : h.store.Sound) (hissued : e.issued? ≠ some id)
    (hnamed : e.call.named? = some id → h.store.find? id = none) :
    h'.liveMap.live id = h.liveMap.live id := by
  have hmissing (hid : e.call.named? = some id) : h.store.live h.clock id = none := by
    rw [MemoryStore.live, hnamed hid, Option.filter_none]
  show h'.store.live h'.clock id = h.store.live h.clock id
  cases ha with
  | store hanswers =>
    cases hanswers with
    | @create fresh =>
      have hne : id ≠ fresh := fun heq => hissued (congrArg some heq.symm)
      rw [MemoryStore.live_insert_eq, Function.update_of_ne hne, MemoryStore.live_purge hs]
    | get id' => rw [MemoryStore.live_get]
    | @save x hlive =>
      -- What is saved is there, so it is not the one that is missing.
      have hne : id ≠ x.id := by
        rintro rfl
        rw [hmissing rfl] at hlive
        cases hlive
      rw [MemoryStore.live_insert_eq, Function.update_of_ne hne]
    | refuse => rfl
    | invalidate id' =>
      show (h.store.invalidate id').live h.clock id = _
      rw [MemoryStore.live_invalidate]
      by_cases hid : id = id'
      · rw [hid, Function.update_self]
        exact (hmissing (congrArg some hid.symm)).symm.trans (congrArg _ hid)
      · rw [Function.update_of_ne hid]
  | _ => rfl

end MemoryHost

/-! ### The live map of one client alone -/

def MemoryEntry.rename (f : SessionId → SessionId) (e : MemoryEntry) : MemoryEntry :=
  { e with session := e.session.rename f }

namespace LiveMap

/-- What a client may name reads alike in two maps, under other ids in the second one. -/
structure Mirrors (f : SessionId → SessionId) (mine : SessionId → Prop) (m m' : LiveMap) :
    Prop where
  ttl : m'.ttl = m.ttl
  clock : m'.clock = m.clock
  used : ∀ {id}, f id ∈ m'.used → id ∈ m.used
  live : ∀ {id}, mine id → m'.live (f id) = (m.live id).map (MemoryEntry.rename f)

variable {f : SessionId → SessionId} {mine : SessionId → Prop} {m m' m₁ : LiveMap}

theorem map_rename_filter (o : Option MemoryEntry) (now : Uptime) :
    (o.map (MemoryEntry.rename f)).filter (·.isLive now) =
      (o.filter (·.isLive now)).map (MemoryEntry.rename f) := by
  cases o with
  | none => rfl
  | some e =>
    show (if e.isLive now = true then some (e.rename f) else none) =
      (if e.isLive now = true then some e else none).map (MemoryEntry.rename f)
    split <;> rfl

theorem Mirrors.later (hm : Mirrors f mine m m') (ms : Nat) :
    Mirrors f mine (m.later ms) (m'.later ms) where
  ttl := hm.ttl
  clock := congrArg (· + ms) hm.clock
  used := hm.used
  live {id} hid := by
    show (m'.live (f id)).filter (·.isLive (m'.clock + ms)) = _
    rw [hm.live hid, hm.clock, map_rename_filter]
    rfl

theorem Mirrors.leave (hm : Mirrors f mine m m') (hf : Function.Injective f) (id : SessionId)
    (left : Option Session) :
    Mirrors f mine (m.leave id left) (m'.leave (f id) (left.map (Session.rename f))) where
  ttl := hm.ttl
  clock := hm.clock
  used := hm.used
  live {id'} hid' := by
    show Function.update m'.live (f id) _ (f id') = (Function.update m.live id _ id').map _
    by_cases hid : id' = id
    · have hentry : (left.map (Session.rename f)).map (m'.entryAt m'.clock) =
          (left.map (m.entryAt m.clock)).map (MemoryEntry.rename f) := by
        rw [Option.map_map, Option.map_map, hm.clock]
        refine congrArg (left.map ·) (funext fun x => ?_)
        exact congrArg (fun ttl => (⟨x.rename f, m.clock + 1000 * ttl⟩ : MemoryEntry)) hm.ttl
      rw [hid, Function.update_self, Function.update_self, hentry, map_rename_filter, hm.clock]
    · rw [Function.update_of_ne (hf.ne hid), Function.update_of_ne hid, hm.live hid']

/-- A call of the client itself is answered alike in both maps. -/
theorem Mirrors.call (hm : Mirrors f mine m m') (hf : Function.Injective f) {fresh : SessionId}
    {c : StoreCall} (hmine : ∀ id, (ServiceCall.store c).named? = some id → mine id)
    {r : c.Reply} (hcall : m.call fresh c = some (r, m₁)) :
    ∃ m₁', m'.call (f fresh) (c.rename f) = some (c.renameReply f r, m₁') ∧
      Mirrors f mine m₁ m₁' := by
  have hwritable : m'.Writable ↔ m.Writable := by
    rw [Writable, Writable, hm.clock, hm.ttl]
  cases c with
  | create =>
    rw [LiveMap.call] at hcall
    split at hcall
    · cases hcall
    · rename_i hcond
      obtain ⟨rfl, rfl⟩ := Prod.mk.inj (Option.some.inj hcall)
      have hcond' : ¬(f fresh ∈ m'.used ∨ ¬m'.Writable) := by
        rintro (hmem | hw)
        · exact hcond (.inl (hm.used hmem))
        · exact hcond (.inr (mt hwritable.2 hw))
      have hleave := hm.leave hf fresh (some (.fresh fresh))
      refine ⟨_, if_neg hcond', hleave.ttl, hleave.clock, fun {id} hid => ?_, hleave.live⟩
      rcases List.mem_cons.1 hid with hid | hid
      · exact List.mem_cons.2 (.inl (hf hid))
      · exact List.mem_cons_of_mem _ (hm.used hid)
  | get id =>
    obtain ⟨rfl, rfl⟩ := Prod.mk.inj (Option.some.inj hcall)
    have hfound : (m'.live (f id)).map MemoryEntry.session =
        ((m.live id).map MemoryEntry.session).map (Session.rename f) := by
      rw [hm.live (hmine id rfl), Option.map_map, Option.map_map]
      rfl
    exact ⟨m', congrArg (fun x => some (Except.ok x, m')) hfound, hm⟩
  | save x =>
    have hsome : (m'.live (f x.id)).isSome = (m.live x.id).isSome := by
      rw [hm.live (hmine x.id rfl), Option.isSome_map]
    rw [LiveMap.call] at hcall
    split at hcall
    · rename_i hx
      split at hcall
      · rename_i hw
        obtain ⟨rfl, rfl⟩ := Prod.mk.inj (Option.some.inj hcall)
        exact ⟨_, (if_pos (hsome.trans hx)).trans (if_pos (hwritable.2 hw)),
          hm.leave hf x.id (some x)⟩
      · cases hcall
    · rename_i hx
      obtain ⟨rfl, rfl⟩ := Prod.mk.inj (Option.some.inj hcall)
      exact ⟨m', if_neg fun hx' => hx (hsome.symm.trans hx'), hm⟩
  | invalidate id =>
    obtain ⟨rfl, rfl⟩ := Prod.mk.inj (Option.some.inj hcall)
    exact ⟨_, rfl, hm.leave hf id none⟩

/-- A call of somebody else: it makes a session that the client may not name, and whatever it names
that the client may name is not there. -/
theorem Mirrors.foreign {h h₁ : MemoryHost} {e : ServiceExchange}
    (hm : Mirrors f mine h.liveMap m') (hs : h.store.Sound) (ha : h.Attends e h₁)
    (hissued : ∀ id, mine id → e.issued? ≠ some id)
    (hnamed : ∀ id, mine id → e.call.named? = some id → h.store.find? id = none) :
    Mirrors f mine h₁.liveMap m' where
  ttl := hm.ttl.trans ha.ttl.symm
  clock := hm.clock.trans ha.clock.symm
  used hid := ha.used_iff.2 (.inl (hm.used hid))
  live {id} hid := by rw [hm.live hid, ha.live_eq hs (hissued id hid) (hnamed id hid)]

end LiveMap

namespace MemoryHost

variable {wall : Uptime → Timestamp} {turn : MemoryTurn} {h h' h₁ : MemoryHost}
  {f : SessionId → SessionId} {mine : SessionId → Prop} {delay : Nat}

/-- A call of the client itself is answered alike by two hosts, when the second one makes up for
its delay. -/
theorem attend_mirrors (hs : h.store.Sound) (hs' : h'.store.Sound)
    (hm : LiveMap.Mirrors f mine h.liveMap (h'.liveMap.later delay)) (hf : Function.Injective f)
    {c : ServiceCall} (hmine : ∀ id, c.named? = some id → mine id) {r : c.Reply}
    (hattend : h.attend wall turn c = some (r, h₁)) :
    ∃ h₁', h'.attend wall ⟨delay + turn.wait, f turn.fresh⟩ ((ServiceCall.naming f).call c) =
        some ((ServiceCall.naming f).reply c r, h₁') ∧
      LiveMap.Mirrors f mine h₁.liveMap h₁'.liveMap := by
  have hnow := hm.later turn.wait
  rw [LiveMap.later_later] at hnow
  have hlater := hnow
  rw [← liveMap_later, ← liveMap_later] at hlater
  cases c with
  | store c =>
    obtain ⟨m₁', hcall, hm₁⟩ := hnow.call hf hmine (call_of_perform hs hattend)
    obtain ⟨h₁', hperform, rfl⟩ :=
      exists_perform_of_call hs' ⟨delay + turn.wait, f turn.fresh⟩ hcall
    exact ⟨h₁', hperform, hm₁⟩
  | time =>
    obtain ⟨rfl, rfl⟩ := Prod.mk.inj (Option.some.inj hattend)
    exact ⟨_, congrArg (fun t => some (wall t, h'.later (delay + turn.wait))) hlater.clock, hlater⟩
  | request req =>
    obtain ⟨rfl, rfl⟩ := Prod.mk.inj (Option.some.inj hattend)
    exact ⟨_, rfl, hlater⟩
  | tell out =>
    obtain ⟨rfl, rfl⟩ := Prod.mk.inj (Option.some.inj hattend)
    exact ⟨_, rfl, hlater⟩

end MemoryHost

/-! ### Several clients -/

/-- What a service is in the middle of, with everything that its clients do at the same time. -/
abbrev Services (ι : Type) := Snapshot ServiceCall ServiceCall.Reply ι Unit MemoryHost

namespace Services

variable {ι κ : Type}

/-- A service that has not been asked anything yet. -/
def begun (c : LoginCommand Serving) (plans : ι → Plan) (h : MemoryHost) : Services ι :=
  ⟨h, fun i => follow c (plans i), []⟩

section Alone

variable [DecidableEq κ] {client : ι → κ} {i : ι} {k : κ}

/-- The turns of one client, each as late as it was. New sessions get their ids under other
names. -/
def alone (client : ι → κ) (k : κ) (f : SessionId → SessionId) :
    Nat → List (ι × MemoryTurn) → List (ι × MemoryTurn)
  | _, [] => []
  | delay, (j, turn) :: schedule =>
    if client j = k then (j, ⟨delay + turn.wait, f turn.fresh⟩) :: alone client k f 0 schedule
    else alone client k f (delay + turn.wait) schedule

/-- What one client did and was told, under other session ids. -/
def told (client : ι → κ) (k : κ) (f : SessionId → SessionId) (log : List (ι × ServiceExchange)) :
    List (ι × ServiceExchange) :=
  (log.filter fun e => client e.1 = k).map fun e => (e.1, (ServiceCall.naming f).exchange e.2)

theorem told_append_of_eq (hi : client i = k) (f : SessionId → SessionId)
    (log : List (ι × ServiceExchange)) (e : ServiceExchange) :
    told client k f (log ++ [(i, e)]) =
      told client k f log ++ [(i, (ServiceCall.naming f).exchange e)] := by
  rw [told, told, List.filter_append, List.filter_cons_of_pos (by simpa using hi), List.filter_nil,
    List.map_append, List.map_singleton]

theorem told_append_of_ne (hi : client i ≠ k) (f : SessionId → SessionId)
    (log : List (ι × ServiceExchange)) (e : ServiceExchange) :
    told client k f (log ++ [(i, e)]) = told client k f log := by
  rw [told, told, List.filter_append, List.filter_cons_of_neg (by simpa using hi), List.filter_nil,
    List.append_nil]

end Alone

section Run

variable [DecidableEq ι] {client : ι → κ} {owner : SessionId → κ}
  {wall : Uptime → Timestamp} {start : MemoryHost} {s s₁ sf : Services ι} {i j : ι} {k : κ}
  {turn : MemoryTurn} {id : SessionId} {schedule : List (ι × MemoryTurn)}

/-- An id that was issued to no other client, neither before the service began nor since. -/
structure MayName (client : ι → κ) (owner : SessionId → κ) (start : MemoryHost)
    (log : List (ι × ServiceExchange)) (k : κ) (id : SessionId) : Prop where
  before : id ∈ start.used → owner id = k
  since : ∀ j e, (j, e) ∈ log → e.issued? = some id → client j = k

/-- Every client comes with ids only that it may name. -/
def Honest (client : ι → κ) (owner : SessionId → κ) (start : MemoryHost)
    (log : List (ι × ServiceExchange)) : Prop :=
  ∀ j e id, (j, e) ∈ log → e.presented? = some id → MayName client owner start log (client j) id

/-- What holds of a service in the middle of anything. No id is issued twice. -/
structure Ledger (start : MemoryHost) (s : Services ι) : Prop where
  along : ∀ i, (s.programs i).Along Serving.Own Serving.Sincere (fun _ _ => True) (own i s.log)
  sound : s.host.store.Sound
  stored : ∀ id e, s.host.store.find? id = some e → id ∈ s.host.used
  used : ∀ id, id ∈ s.host.used ↔
    id ∈ start.used ∨ ∃ j e, (j, e) ∈ s.log ∧ ServiceExchange.issued? e = some id
  fresh : ∀ {j e id}, (j, e) ∈ s.log → ServiceExchange.issued? e = some id → id ∉ start.used
  once : ∀ {i j e e' id}, (i, e) ∈ s.log → (j, e') ∈ s.log → ServiceExchange.issued? e = some id →
    ServiceExchange.issued? e' = some id → i = j

theorem Ledger.begun {c : LoginCommand Serving} (hc : Serving.Shared c) {plans : ι → Plan}
    (hsound : start.store.Sound)
    (hstored : ∀ id e, start.store.find? id = some e → id ∈ start.used) :
    Ledger start (Services.begun c plans start) where
  along j := by
    have halike := (plans j).alike_rename (f := fun id => id) (g := fun id => id) fun _ => rfl
    exact (Serving.follow_twin hc halike).along fun _ _ _ _ => trivial
  sound := hsound
  stored := hstored
  used id := by simp [Services.begun]
  fresh he := by cases he
  once he := by cases he

theorem Ledger.step (hl : Ledger start s)
    (hstep : s.step (MemoryHost.attend wall) i turn = some s₁) : Ledger start s₁ := by
  obtain ⟨c, next, r, host, hprogram, hattend, rfl⟩ := Snapshot.step_cases hstep
  have ha := MemoryHost.attend_attends hattend
  -- An id that was issued before is in use, so the new call does not issue it.
  have hnew {j : ι} {e : ServiceExchange} {id : SessionId} (he : (j, e) ∈ s.log)
      (hid : e.issued? = some id) : ServiceExchange.issued? ⟨c, r⟩ ≠ some id := fun hissued =>
    ha.issued_notMem hissued ((hl.used id).2 (.inr ⟨j, e, he, hid⟩))
  refine ⟨Snapshot.step_along hl.along hprogram (ha.sincere hl.sound), ha.sound hl.sound,
    fun id e he => ha.stored hl.sound hl.stored he, fun id => ?_, ?_, ?_⟩
  · show id ∈ host.used ↔ _
    have hbefore : id ∈ (s.host.later turn.wait).used ↔ _ := hl.used id
    rw [ha.used_iff, hbefore, or_assoc]
    refine or_congr_right ⟨?_, ?_⟩
    · rintro (⟨j, e, he, hid⟩ | hid)
      · exact ⟨j, e, List.mem_append_left _ he, hid⟩
      · exact ⟨i, _, List.mem_append_right _ (List.mem_singleton.2 rfl), hid⟩
    · rintro ⟨j, e, he, hid⟩
      rcases List.mem_append.1 he with he | he
      · exact .inl ⟨j, e, he, hid⟩
      · obtain ⟨rfl, rfl⟩ := Prod.mk.inj (List.mem_singleton.1 he)
        exact .inr hid
  · intro j e id he hid
    rcases List.mem_append.1 he with he | he
    · exact hl.fresh he hid
    · obtain ⟨rfl, rfl⟩ := Prod.mk.inj (List.mem_singleton.1 he)
      exact fun hmem => ha.issued_notMem hid ((hl.used id).2 (.inl hmem))
  · intro j j' e e' id he he' hid hid'
    rcases List.mem_append.1 he with he | he <;> rcases List.mem_append.1 he' with he' | he'
    · exact hl.once he he' hid hid'
    · obtain ⟨-, rfl⟩ := Prod.mk.inj (List.mem_singleton.1 he')
      exact absurd hid' (hnew he hid)
    · obtain ⟨-, rfl⟩ := Prod.mk.inj (List.mem_singleton.1 he)
      exact absurd hid (hnew he' hid')
    · exact (Prod.mk.inj (List.mem_singleton.1 he)).1.trans
        (Prod.mk.inj (List.mem_singleton.1 he')).1.symm

theorem subset_of_run (hrun : s.run (MemoryHost.attend wall) schedule = some sf) :
    ∀ e ∈ s.log, e ∈ sf.log := by
  refine Snapshot.run_induction (P := fun s' => ∀ e ∈ s.log, e ∈ s'.log) ?_ (fun e he => he) hrun
  intro s' i turn s₁ hs' hstep e he
  obtain ⟨c, next, r, host, -, -, rfl⟩ := Snapshot.step_cases hstep
  exact List.mem_append_left _ (hs' e he)

/-- Whatever a client knows, it may name. -/
theorem Ledger.mayName (hl : Ledger start sf) (hlog : ∀ e ∈ s.log, e ∈ sf.log)
    (hhonest : Honest client owner start sf.log) (hknown : Serving.Known (own i s.log) id) :
    MayName client owner start sf.log (client i) id := by
  obtain ⟨e, he, hid⟩ := hknown
  have hmem : (i, e) ∈ sf.log := hlog _ (Snapshot.mem_own.1 he)
  rcases hid with hid | hid
  · exact hhonest i e id hmem hid
  · exact ⟨fun hused => absurd hused (hl.fresh hmem hid),
      fun j e' he' hid' => congrArg client (hl.once he' hmem hid' hid)⟩

/-- What two clients may name is not there. -/
theorem Ledger.missing (hl : Ledger start s) (hlog : ∀ e ∈ s.log, e ∈ sf.log) {k' : κ}
    (hne : k' ≠ k) (hk : MayName client owner start sf.log k id)
    (hk' : MayName client owner start sf.log k' id) : s.host.store.find? id = none := by
  rw [Option.eq_none_iff_forall_ne_some]
  intro e he
  rcases (hl.used id).1 (hl.stored id e he) with hused | ⟨j, e', hmem, hid⟩
  · exact hne ((hk'.before hused).symm.trans (hk.before hused))
  · exact hne ((hk'.since j e' (hlog _ hmem) hid).symm.trans (hk.since j e' (hlog _ hmem) hid))

variable [DecidableEq κ]

/-- A client among others, and alone. Alone, it is so many milliseconds behind. -/
structure Beside (client : ι → κ) (k : κ) (f : SessionId → SessionId) (mine : SessionId → Prop)
    (delay : Nat) (s s' : Services ι) : Prop where
  twin : ∀ i, client i = k →
    Serving.Twins f (fun _ _ _ => True) (s.programs i) (s'.programs i) (own i s.log)
  log : s'.log = told client k f s.log
  sound : s'.host.store.Sound
  mirrors : LiveMap.Mirrors f mine s.host.liveMap (s'.host.liveMap.later delay)

variable {f : SessionId → SessionId} {mine : SessionId → Prop} {delay : Nat} {s' : Services ι}

/-- At first, the client alone finds what is there. Its new names leave alone what was in use. -/
theorem Beside.begun {c : LoginCommand Serving} (hc : Serving.Shared c) {plans plans' : ι → Plan}
    (hplans : ∀ i, client i = k → (plans i).Alike f (plans' i)) (hf : Function.Injective f)
    (hfixed : ∀ id ∈ start.used, f id = id) (hsound : start.store.Sound)
    (hstored : ∀ id e, start.store.find? id = some e → id ∈ start.used) :
    Beside client k f mine 0 (Services.begun c plans start) (Services.begun c plans' start) := by
  have hback {id : SessionId} (hid : f id ∈ start.used) : id ∈ start.used :=
    hf (hfixed _ hid) ▸ hid
  refine ⟨fun i hi => Serving.follow_twin hc (hplans i hi), rfl, hsound, ?_⟩
  show LiveMap.Mirrors f mine start.liveMap (start.liveMap.later 0)
  rw [← MemoryHost.liveMap_later]
  refine ⟨rfl, rfl, hback, fun {id} _ => ?_⟩
  show start.store.live start.clock (f id) = (start.store.live start.clock id).map _
  by_cases hid : id ∈ start.used
  · rw [hfixed id hid]
    cases hlive : start.store.live start.clock id with
    | none => rfl
    | some e =>
      -- An entry stands under the id of its session, so that has no other name.
      have heid : e.session.id = id := hsound.id_eq id e (MemoryStore.live_eq_some_iff.1 hlive).1
      obtain ⟨⟨xid, p⟩, deadline⟩ := e
      obtain rfl : xid = id := heid
      exact congrArg (fun id => some (⟨⟨id, p⟩, deadline⟩ : MemoryEntry)) (hfixed xid hid).symm
  · have hnone {id : SessionId} (hid : id ∉ start.used) : start.store.find? id = none :=
      Option.eq_none_iff_forall_ne_some.2 fun e he => hid (hstored id e he)
    rw [MemoryStore.live, MemoryStore.live, hnone hid, hnone fun hmem => hid (hback hmem)]
    rfl

/-- While it is somebody else's turn, the client alone waits. -/
theorem Beside.foreign (hb : Beside client k f mine delay s s') (hl : Ledger start s)
    (hne : client j ≠ k) (hstep : s.step (MemoryHost.attend wall) j turn = some s₁)
    (hissued : ∀ id e, mine id → (j, e) ∈ s₁.log → ServiceExchange.issued? e ≠ some id)
    (hknown : ∀ id, mine id → Serving.Known (own j s.log) id → s.host.store.find? id = none) :
    Beside client k f mine (delay + turn.wait) s₁ s' := by
  obtain ⟨c, next, r, host, hprogram, hattend, rfl⟩ := Snapshot.step_cases hstep
  have hown : Serving.Own (own j s.log) c := by
    have hcall := hl.along j
    rw [hprogram] at hcall
    exact hcall.1
  refine ⟨fun i hi => ?_, hb.log.trans (told_append_of_ne hne f _ _).symm, hb.sound, ?_⟩
  · have hji : j ≠ i := fun heq => hne (heq ▸ hi)
    show Serving.Twins f _ (Function.update s.programs j (next r) i) _ _
    rw [Function.update_of_ne (Ne.symm hji), Snapshot.own_append, Snapshot.own_singleton_of_ne hji,
      List.append_nil]
    exact hb.twin i hi
  · have hlater := hb.mirrors.later turn.wait
    rw [LiveMap.later_later, ← MemoryHost.liveMap_later] at hlater
    refine hlater.foreign hl.sound (MemoryHost.attend_attends hattend) ?_ ?_
    · exact fun id hid => hissued id _ hid (List.mem_append_right _ (List.mem_singleton.2 rfl))
    · exact fun id hid hnamed => hknown id hid (hown id hnamed)

/-- When it is a turn of the client, it makes its call in both worlds. -/
theorem Beside.step (hb : Beside client k f mine delay s s') (hl : Ledger start s)
    (hf : Function.Injective f) (hi : client i = k)
    (hstep : s.step (MemoryHost.attend wall) i turn = some s₁)
    (hknown : ∀ id, Serving.Known (own i s.log) id → mine id) :
    ∃ s₁', s'.step (MemoryHost.attend wall) i ⟨delay + turn.wait, f turn.fresh⟩ = some s₁' ∧
      Beside client k f mine 0 s₁ s₁' := by
  obtain ⟨c, next, r, host, hprogram, hattend, rfl⟩ := Snapshot.step_cases hstep
  have hsincere := (MemoryHost.attend_attends hattend).sincere hl.sound
  have htwin := hb.twin i hi
  rw [hprogram] at htwin
  obtain ⟨hown, next', hprogram', hnext⟩ := htwin.of_call
  have hmine : ∀ id, c.named? = some id → mine id := fun id hid => hknown id (hown id hid)
  obtain ⟨host', hattend', hmirrors⟩ :=
    MemoryHost.attend_mirrors hl.sound hb.sound hb.mirrors hf hmine hattend
  have hsound := (MemoryHost.attend_attends hattend').sound hb.sound
  refine ⟨_, Snapshot.step_eq hprogram' hattend', fun j hj => ?_, ?_, hsound, ?_⟩
  · show Serving.Twins f _ (Function.update s.programs i (next r) j)
      (Function.update s'.programs i (next' _) j) _
    rw [Snapshot.own_append]
    by_cases hji : j = i
    · rw [hji, Function.update_self, Function.update_self, Snapshot.own_singleton]
      exact hnext r hsincere
    · rw [Function.update_of_ne hji, Function.update_of_ne hji,
        Snapshot.own_singleton_of_ne (Ne.symm hji), List.append_nil]
      exact hb.twin j hj
  · show s'.log ++ [_] = _
    rw [hb.log, told_append_of_eq hi]
    rfl
  · show LiveMap.Mirrors f mine host.liveMap (host'.liveMap.later 0)
    rw [← MemoryHost.liveMap_later]
    exact hmirrors

theorem Beside.run (hb : Beside client k f (MayName client owner start sf.log k) delay s s')
    (hf : Function.Injective f) (hl : Ledger start s) (hlf : Ledger start sf)
    (hhonest : Honest client owner start sf.log)
    (hrun : s.run (MemoryHost.attend wall) schedule = some sf) :
    ∃ sf', s'.run (MemoryHost.attend wall) (alone client k f delay schedule) = some sf' ∧
      sf'.log = told client k f sf.log := by
  -- The delay grows with the turns of the others, and the next own turn makes up for it.
  induction schedule generalizing s s' delay with
  | nil =>
    obtain rfl := Option.some.inj hrun
    exact ⟨s', rfl, hb.log⟩
  | cons first schedule ih =>
    obtain ⟨j, turn⟩ := first
    obtain ⟨s₁, hstep, hrest⟩ := Option.bind_eq_some_iff.1 hrun
    have hlog := subset_of_run hrun
    by_cases hj : client j = k
    · obtain ⟨s₁', hstep', hb₁⟩ :=
        hb.step hl hf hj hstep fun id hid => hj ▸ hlf.mayName hlog hhonest hid
      obtain ⟨sf', hrun', heq⟩ := ih hb₁ (hl.step hstep) hrest
      refine ⟨sf', ?_, heq⟩
      rw [alone, if_pos hj, Snapshot.run, hstep']
      exact hrun'
    · have hb₁ : Beside client k f (MayName client owner start sf.log k) (delay + turn.wait)
          s₁ s' := by
        refine hb.foreign hl hj hstep ?_ ?_
        · exact fun id e hid he hissued => hj (hid.since j e (subset_of_run hrest _ he) hissued)
        · exact fun id hid hknown => hl.missing hlog hj hid (hlf.mayName hlog hhonest hknown)
      rw [alone, if_neg hj]
      exact ih hb₁ (hl.step hstep) hrest

/-- Clients whose calls come in any order, and who come with ids only that were issued to them or to
nobody: each of them does the same and is told the same when it is alone, with its own turns only,
under the names that its new sessions have there. -/
theorem alone_of_run {c : LoginCommand Serving} (hc : Serving.Shared c) {plans plans' : ι → Plan}
    (hsound : start.store.Sound)
    (hstored : ∀ id e, start.store.find? id = some e → id ∈ start.used)
    (hrun : (begun c plans start).run (MemoryHost.attend wall) schedule = some s)
    (hhonest : Honest client owner start s.log) (hf : Function.Injective f)
    (hfixed : ∀ id ∈ start.used, f id = id)
    (hplans : ∀ i, client i = k → (plans i).Alike f (plans' i)) :
    ∃ s', (begun c plans' start).run (MemoryHost.attend wall) (alone client k f 0 schedule) =
        some s' ∧ s'.log = told client k f s.log := by
  have hbegun : Ledger start (begun c plans start) := .begun hc hsound hstored
  have hended : Ledger start s :=
    Snapshot.run_induction (fun _ _ _ _ hl hstep => hl.step hstep) hbegun hrun
  have hbeside : Beside client k f (MayName client owner start s.log k) 0 (begun c plans start)
      (begun c plans' start) := .begun hc hplans hf hfixed hsound hstored
  exact hbeside.run hf hbegun hended hhonest hrun

end Run

/-! ### Two clients -/

def openService : LoginCommand Serving :=
  let config : LoginConfig Serving :=
    { verifier := Serving.verifier fun credential => .ok ⟨credential.username.text, .empty⟩
      store := some Serving.store, strategy := .changeId Serving.store, rememberMe := .null
      handlers := none, mode := .perSession, invalidateSession := true }
  ⟨config, some ⟨LoginCommand.handlersOf config, .perSession Serving.store⟩⟩

theorem shared_openService : Serving.Shared openService where
  started := ⟨_, rfl, fun _ hmem => List.mem_singleton.1 hmem ▸ .securityContext true⟩
  verifier := ⟨_, rfl⟩
  strategy := .inr rfl
  rememberMe := .inl rfl

/-- A client that logs in and asks for a scope in the session that it got. -/
def visit (username : String) : Plan :=
  .call (.login .empty username "") fun out =>
    .call (.scope { sessionId := out.sessionId }) fun _ => .done ()

def visits (b : Bool) : Plan := visit (if b then "bob" else "alice")

/-- Their turns: the second client begins as soon as the first one has a session. -/
def turns : List (Bool × MemoryTurn) :=
  [(false, ⟨0, ⟨1⟩⟩), (false, ⟨5, ⟨1⟩⟩), (true, ⟨0, ⟨2⟩⟩), (true, ⟨0, ⟨2⟩⟩), (false, ⟨0, ⟨0⟩⟩),
    (false, ⟨0, ⟨0⟩⟩), (false, ⟨0, ⟨3⟩⟩), (true, ⟨9, ⟨0⟩⟩), (false, ⟨0, ⟨0⟩⟩), (false, ⟨0, ⟨0⟩⟩),
    (false, ⟨0, ⟨0⟩⟩), (true, ⟨0, ⟨0⟩⟩), (false, ⟨0, ⟨0⟩⟩), (false, ⟨0, ⟨0⟩⟩), (false, ⟨0, ⟨0⟩⟩)]

def otherNames (id : SessionId) : SessionId :=
  if id = ⟨3⟩ then ⟨2⟩ else if id = ⟨2⟩ then ⟨3⟩ else id

theorem otherNames_otherNames (id : SessionId) : otherNames (otherNames id) = id := by
  by_cases h₃ : id = ⟨3⟩
  · rw [h₃]
    rfl
  by_cases h₂ : id = ⟨2⟩
  · rw [h₂]
    rfl
  have hid : otherNames id = id := (if_neg h₃).trans (if_neg h₂)
  rw [hid, hid]

/-- Whether everybody comes with ids only that were issued to nobody else. -/
def honest (log : List (Bool × ServiceExchange)) : Bool :=
  log.all fun a => a.2.presented?.all fun id =>
    log.all fun b => b.2.issued? != some id || b.1 == a.1

theorem honest_of_begun {log : List (Bool × ServiceExchange)} (h : honest log = true)
    (owner : SessionId → Bool) (now : Uptime) :
    Honest (fun b => b) owner (.begun 60 now) log := by
  intro j e id he hid
  have hall := List.all_eq_true.1 h _ he
  rw [hid, Option.all_some, List.all_eq_true] at hall
  refine ⟨fun hused => absurd hused List.not_mem_nil, fun k e' he' hid' => ?_⟩
  have hk := hall _ he'
  rw [hid', bne_self_eq_false, Bool.false_or] at hk
  exact beq_iff_eq.1 hk

/-- The first client alone gets the id that the second one gets when both are there. -/
theorem alone_of_run_visits : ∃ s s',
    (begun openService visits (.begun 60 0)).run (MemoryHost.attend fun _ => ⟨0⟩) turns = some s ∧
      (begun openService (fun b => (visits b).rename otherNames otherNames) (.begun 60 0)).run
        (MemoryHost.attend fun _ => ⟨0⟩) (alone (fun b => b) false otherNames 0 turns) = some s' ∧
      s'.log = told (fun b => b) false otherNames s.log := by
  obtain ⟨s, hrun, hhonest⟩ : ∃ s,
      (begun openService visits (.begun 60 0)).run (MemoryHost.attend fun _ => ⟨0⟩) turns = some s ∧
        honest s.log = true := ⟨_, rfl, rfl⟩
  have hempty (id : SessionId) (e : MemoryEntry)
      (he : (MemoryHost.begun 60 0).store.find? id = some e) :
      id ∈ (MemoryHost.begun 60 0).used := by
    cases he
  obtain ⟨s', hrun', hsame⟩ := alone_of_run shared_openService
    (MemoryHost.sound_begun 60 0) hempty hrun
    (honest_of_begun hhonest (fun _ => true) 0)
    (Function.LeftInverse.injective otherNames_otherNames) (fun id hid => by cases hid)
    fun b _ => (visits b).alike_rename otherNames_otherNames
  exact ⟨s, s', hrun, hrun', hsame⟩

end Services

end WebLogin
