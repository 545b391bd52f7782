/-
Several logins at once, over one store in memory.

A login writes its principal into the session of the request, and then the session strategy looks
that session up again and moves whatever it finds there to a new session. Between the two, another
login on the same session may have written somebody else.

* `Logins.Underway` — what holds while the logins take turns;
* `Logins.session_of_run` — the session that a login ends with holds whoever was written last to the
  session that it moved;
* `Logins.swapped` — two logins after which one has the session of the other.
-/
import WebLogin.Proofs.Concurrency.Login

namespace WebLogin

open StoreCall (Calls)

theorem MemoryHost.Keeps.fair {ι : Type} {start : SessionId → Option Principal} {h h' : MemoryHost}
    {now : Uptime} {e : StoreExchange} {log : List (ι × StoreExchange)} (hk : h.Keeps start log)
    (ha : h.Answers now e h') : Fair e := by
  cases ha with
  | create => exact rfl
  | get id =>
    rcases hx : (h.store.get now id).1 with _ | x
    · exact trivial
    · rw [hk.found_now hx]
      exact rfl
  | save => exact trivial
  | refuse => exact trivial
  | invalidate => exact trivial

/-! ### Several logins -/

/-- Somebody who logs in. -/
structure Visitor where
  command : LoginCommand Calls
  sharing : SharesStore command
  ctx : RequestContext
  username : String
  password : String

/-- What some logins are in the middle of. -/
abbrev Logins (ι : Type) :=
  Snapshot StoreCall StoreCall.Reply ι (Step LoginError Principal) MemoryHost

namespace Logins

open Snapshot (own)

variable {ι : Type} {visitors : ι → Visitor} {start : SessionId → Option Principal}

/-- The logins of some visitors before their first calls. -/
def begun (visitors : ι → Visitor) (h : MemoryHost) : Logins ι where
  host := h
  programs i := (visitors i).command.login (visitors i).ctx (visitors i).username
    (visitors i).password
  log := []

/-- What holds while the logins are under way. -/
structure Underway [DecidableEq ι] (visitors : ι → Visitor)
    (start : SessionId → Option Principal) (s : Logins ι) : Prop where
  along : ∀ i, (s.programs i).Along (OwnCalls (visitors i).ctx) Fair
    (fun r t => ∀ p, r.2 = .ok p → LogsIn p r.1.sessionId t) (own i s.log)
  keeps : s.host.Keeps start s.log
  known : ∀ {i id}, (visitors i).ctx.sessionId = some id → id ∈ s.host.used
  strange : ∀ {i j id x}, (visitors i).ctx.sessionId = some id →
    (j, ⟨.create, .ok x⟩) ∈ s.log → x.id ≠ id
  saves : ∀ {j x r}, (j, ⟨.save x, r⟩) ∈ s.log → Owns (visitors j).ctx (own j s.log) x.id

variable [DecidableEq ι] {s s' : Logins ι}

theorem Underway.owned (h : Underway visitors start s) {i : ι} {id : SessionId}
    (hown : Owns (visitors i).ctx (own i s.log) id) : id ∈ s.host.used := by
  rcases hown with hid | ⟨x, hx, rfl⟩
  · exact h.known hid
  · exact h.keeps.created (Snapshot.mem_own.1 hx)

theorem Underway.step (h : Underway visitors start s) {i : ι} {turn : MemoryTurn}
    (hstep : s.step MemoryHost.perform i turn = some s') : Underway visitors start s' := by
  obtain ⟨c, next, r, host, hprogram, hperform, rfl⟩ := Snapshot.step_cases hstep
  have ha := MemoryHost.perform_answers hperform
  have hmay : OwnCalls (visitors i).ctx (own i s.log) c := by
    have hcall := h.along i
    rw [hprogram] at hcall
    exact hcall.1
  have howns {j : ι} {id : SessionId} (hown : Owns (visitors j).ctx (own j s.log) id) :
      Owns (visitors j).ctx (own j (s.log ++ [(i, ⟨c, r⟩)])) id := by
    rw [Snapshot.own_append]
    exact hown.append _
  -- The call is one that its login may make, so only ids in use are looked up.
  refine ⟨Snapshot.step_along h.along hprogram (h.keeps.fair ha), h.keeps.answers ha i ?_,
    fun hid => ha.used (h.known hid), ?_, ?_⟩
  · rintro id rfl
    exact h.owned hmay
  · intro j k id x hid hx
    rcases List.mem_append.1 hx with hx | hx
    · exact h.strange hid hx
    · -- The new session has an id that no visitor came with.
      cases List.mem_singleton.1 hx
      rintro rfl
      exact ha.created.1 (h.known hid)
  · intro j x r' hx
    rcases List.mem_append.1 hx with hx | hx
    · exact howns (h.saves hx)
    · cases List.mem_singleton.1 hx
      exact howns hmay

/-- Whoever writes a session that was made for somebody is that somebody. -/
theorem Underway.owner (h : Underway visitors start s) {i j : ι} {e : StoreExchange}
    {x fresh : Session} (hfresh : (i, ⟨.create, .ok fresh⟩) ∈ s.log) (he : (j, e) ∈ s.log)
    (hx : StoreExchange.written? e = some x) (hid : x.id = fresh.id) : j = i := by
  have hown (hown : Owns (visitors j).ctx (own j s.log) x.id) : j = i := by
    rcases hown with hctx | ⟨y, hy, hyid⟩
    · exact absurd hid.symm (h.strange hctx hfresh)
    · exact h.keeps.once (Snapshot.mem_own.1 hy) hfresh (hyid.trans hid)
  obtain ⟨c, r⟩ := e
  cases c with
  | create =>
    cases r with
    | error e => cases hx
    | ok y =>
      obtain rfl := Option.some.inj hx
      exact h.keeps.once he hfresh hid
  | get => cases hx
  | save y =>
    cases r with
    | error e => cases hx
    | ok _ =>
      obtain rfl := Option.some.inj hx
      exact hown (h.saves he)
  | invalidate => cases hx

/-- Nobody else knows a session that was made for a login, so it holds what that login wrote to it
last. -/
theorem Underway.newest (h : Underway visitors start s) {i : ι} {fresh x : Session}
    {q : Option Principal} {e : StoreExchange} {early late : List (ι × StoreExchange)}
    (hfresh : (i, ⟨.create, .ok fresh⟩) ∈ s.log) (hlog : s.log = early ++ (i, e) :: late)
    (hwrites : StoreExchange.written? e = some ⟨fresh.id, q⟩)
    (hlast : ∀ e' ∈ own i late, StoreExchange.written? e' = none)
    (hx : s.host.session? fresh.id = some x) : x = ⟨fresh.id, q⟩ := by
  obtain ⟨entry, hlive, rfl⟩ := Option.map_eq_some_iff.1 hx
  have hentry := (MemoryStore.live_eq_some_iff.1 hlive).1
  have hlate : lastWritten fresh.id q late = q := by
    refine lastWritten_eq_self fun e' he' z hz hid => ?_
    obtain ⟨j, e'⟩ := e'
    have hmem : (j, e') ∈ s.log := by
      rw [hlog]
      exact List.mem_append_right _ (List.mem_cons_of_mem _ he')
    obtain rfl := h.owner hfresh hmem hz hid
    cases (hlast e' (Snapshot.mem_own.2 he')).symm.trans hz
  have hprincipal : entry.session.principal = q := by
    rw [h.keeps.stands hentry, hlog, List.append_cons, lastWritten_append,
      lastWritten_concat hwrites, hlate]
  rw [← hprincipal, ← h.keeps.sound.id_eq fresh.id entry hentry]

theorem Underway.begun {h : MemoryHost} (hs : h.store.Sound)
    (hused : ∀ {id entry}, h.store.find? id = some entry → id ∈ h.used)
    (hknown : ∀ {i id}, (visitors i).ctx.sessionId = some id → id ∈ h.used) :
    Underway visitors (fun id => (h.store.find? id).bind fun e => e.session.principal)
      (begun visitors h) where
  along i := login_along (visitors i).sharing (visitors i).ctx (visitors i).username
    (visitors i).password
  keeps := .begun hs hused
  known := hknown
  strange _ hx := by cases hx
  saves hx := by cases hx

theorem Underway.session (h : Underway visitors start s) {i : ι} {ctx : RequestContext}
    {p : Principal} (hdone : s.programs i = .done (ctx, .ok p)) :
    ∃ new, ctx.sessionId = some new ∧ ∀ x, s.host.session? new = some x →
      ∃ old q before between after,
        s.log = before ++ (i, ⟨.save ⟨old, some p⟩, .ok ()⟩) :: (between ++
          (i, ⟨.get old, .ok (some ⟨old, q⟩)⟩) :: after) ∧
        own i between = [] ∧ (∀ e ∈ own i after, ∀ id, e.call ≠ .get id) ∧
        q = lastWritten old (some p) between ∧ x = ⟨new, q⟩ := by
  have hended := h.along i
  rw [hdone] at hended
  obtain ⟨old, t₀, t₁, hown, hrotates⟩ := hended p rfl
  generalize hnew : ctx.sessionId = new at hrotates
  cases hrotates with
  | missing =>
    -- A session that was found missing never comes back.
    refine ⟨old, rfl, fun x hx => ?_⟩
    have hlost : (i, ⟨.get old, .ok none⟩) ∈ s.log := by
      rw [← Snapshot.mem_own, hown]
      simp
    rw [MemoryHost.session?, MemoryStore.live, (h.keeps.lost hlost).2] at hx
    cases hx
  | @moved y fresh t hfresh hmoves =>
    refine ⟨fresh.id, rfl, fun x hx => ?_⟩
    obtain ⟨hcreated, hnoget, t₂, e, t₃, rfl, hwrites, hlast⟩ := hmoves.split hfresh
    -- The calls of this login, among those of all.
    obtain ⟨before, rest, hlog, -, hrest⟩ := Snapshot.exists_of_own hown
    obtain ⟨between, after, rfl, hbetween, hafter⟩ :=
      Snapshot.exists_of_own (hrest.trans (List.nil_append _).symm)
    obtain ⟨early, late, rfl, -, hlate⟩ := Snapshot.exists_of_own hafter
    have hread : s.log = (before ++ (i, ⟨.save ⟨old, some p⟩, .ok ()⟩) :: between) ++
        (i, ⟨.get old, .ok (some y)⟩) :: (early ++ (i, e) :: late) := by
      rw [hlog, List.append_assoc, List.cons_append]
    -- From its own save on, whatever stands in the old session was written in between.
    have hy : y = ⟨old, lastWritten old (some p) between⟩ := by
      have hsaved : lastWritten old (start old) (before ++
          [(i, ⟨.save ⟨old, some p⟩, .ok ()⟩)]) = some p := lastWritten_concat rfl
      rw [h.keeps.found hread, List.append_cons, lastWritten_append, hsaved]
    refine ⟨old, y.principal, before, between, early ++ (i, e) :: late, ?_, hbetween, ?_, ?_, ?_⟩
    · rw [hlog, hy]
    · rw [hafter]
      exact hnoget
    · rw [hy]
    · have hcreate : (i, ⟨.create, .ok fresh⟩) ∈ s.log := by
        rw [← Snapshot.mem_own, hown]
        simp [hcreated]
      have hwritten : s.log = (before ++ (i, ⟨.save ⟨old, some p⟩, .ok ()⟩) :: (between ++
          (i, ⟨.get old, .ok (some y)⟩) :: early)) ++ (i, e) :: late := by
        rw [hlog]
        simp only [List.append_assoc, List.cons_append]
      exact h.newest hcreate hwritten hwrites (hlate ▸ hlast) hx

/-- Whatever turns the logins of some visitors take, one that returns a principal leaves its request
with a session that, while it is there, holds whoever was last written to the session that the
login moved: its own principal, unless somebody else wrote there between the moment when this login
saved its principal and the moment when it looked the session up again. -/
theorem session_of_run {h : MemoryHost} (hs : h.store.Sound)
    (hused : ∀ {id entry}, h.store.find? id = some entry → id ∈ h.used)
    (hknown : ∀ {i id}, (visitors i).ctx.sessionId = some id → id ∈ h.used)
    {schedule : List (ι × MemoryTurn)}
    (hrun : (begun visitors h).run MemoryHost.perform schedule = some s) {i : ι}
    {ctx : RequestContext} {p : Principal} (hdone : s.programs i = .done (ctx, .ok p)) :
    ∃ new, ctx.sessionId = some new ∧ ∀ x, s.host.session? new = some x →
      ∃ old q before between after,
        s.log = before ++ (i, ⟨.save ⟨old, some p⟩, .ok ()⟩) :: (between ++
          (i, ⟨.get old, .ok (some ⟨old, q⟩)⟩) :: after) ∧
        own i between = [] ∧ (∀ e ∈ own i after, ∀ id, e.call ≠ .get id) ∧
        q = lastWritten old (some p) between ∧ x = ⟨new, q⟩ := by
  have hunderway : Underway visitors
      (fun id => (h.store.find? id).bind fun e => e.session.principal) s :=
    Snapshot.run_induction (fun _ _ _ _ hu hstep => hu.step hstep)
      (.begun hs hused hknown) hrun
  exact hunderway.session hdone

/-! ### Two logins on one session -/

/-- A command that lets everybody in. -/
def openCommand : LoginCommand Calls :=
  let config : LoginConfig Calls :=
    { verifier := ⟨fun c => return .ok ⟨c.username.text, .empty⟩⟩, store := some StoreCall.store,
      strategy := .changeId StoreCall.store, rememberMe := .null, handlers := none,
      mode := .perSession, invalidateSession := true }
  ⟨config, some ⟨LoginCommand.handlersOf config, .perSession StoreCall.store⟩⟩

theorem sharesStore_openCommand : SharesStore openCommand where
  started := ⟨_, rfl⟩
  strategy := rfl
  verifier _ := ⟨_, rfl⟩
  loginSuccess ctx _ := ⟨ctx, rfl, rfl⟩
  loginFail ctx := ⟨ctx, rfl⟩

/-- Two visitors who log in on the same session. -/
def pair (b : Bool) : Visitor where
  command := openCommand
  sharing := sharesStore_openCommand
  ctx := { sessionId := some ⟨0⟩ }
  username := if b then "bob" else "alice"
  password := ""

/-- A host with that session, in which nobody is logged in. -/
def shared : MemoryHost where
  store := ⟨60, [(⟨0⟩, ⟨.fresh ⟨0⟩, 60000⟩)]⟩
  clock := 0
  used := [⟨0⟩]

/-- The second visitor saves its principal just before the first one moves the session. -/
def crossing : List (Bool × MemoryTurn) :=
  [false, true, false, true, false, false, false, false].map (·, ⟨0, ⟨1⟩⟩)

theorem find?_shared {id : SessionId} {entry : MemoryEntry}
    (h : shared.store.find? id = some entry) : id = ⟨0⟩ ∧ entry.session = .fresh ⟨0⟩ := by
  rw [MemoryStore.find?, shared, List.lookup_cons] at h
  split at h
  · rename_i hid
    exact ⟨beq_iff_eq.1 hid, Option.some.inj h ▸ rfl⟩
  · cases h

theorem sound_shared : shared.store.Sound where
  nodup := List.pairwise_singleton _ _
  id_eq id entry h := by
    obtain ⟨rfl, hsession⟩ := find?_shared h
    rw [hsession]
    rfl

/-- The first of the two visitors gets a session with its own id. -/
theorem session_of_run_crossing : ∃ s ctx,
    (begun pair shared).run MemoryHost.perform crossing = some s ∧
      s.programs false = .done (ctx, .ok ⟨"alice", .empty⟩) ∧
      ∃ new, ctx.sessionId = some new ∧
        ∀ x, s.host.session? new = some x → ∃ q, x = ⟨new, q⟩ := by
  have hused {id : SessionId} {entry : MemoryEntry} (h : shared.store.find? id = some entry) :
      id ∈ shared.used := (find?_shared h).1 ▸ List.mem_cons_self
  have hknown {b : Bool} {id : SessionId} (h : (pair b).ctx.sessionId = some id) :
      id ∈ shared.used := Option.some.inj h ▸ List.mem_cons_self
  obtain ⟨s, ctx, hrun, hdone⟩ : ∃ s ctx,
      (begun pair shared).run MemoryHost.perform crossing = some s ∧
        s.programs false = .done (ctx, .ok ⟨"alice", .empty⟩) := ⟨_, _, rfl, rfl⟩
  obtain ⟨new, hnew, hsession⟩ := session_of_run sound_shared hused hknown hrun hdone
  refine ⟨s, ctx, hrun, hdone, new, hnew, fun x hx => ?_⟩
  obtain ⟨_, q, _, _, _, _, _, _, _, hq⟩ := hsession x hx
  exact ⟨q, hq⟩

/-- Once both are through, the first visitor has the session of the second. -/
theorem swapped : ∃ s ctx, (begun pair shared).run MemoryHost.perform crossing = some s ∧
    s.programs false = .done (ctx, .ok ⟨"alice", .empty⟩) ∧
    ctx.sessionId = some ⟨1⟩ ∧ s.host.session? ⟨1⟩ = some ⟨⟨1⟩, some ⟨"bob", .empty⟩⟩ :=
  ⟨_, _, rfl, rfl, rfl, rfl⟩

end Logins

end WebLogin
