/-
Scopes beside a login, over one store in memory.

A login writes its principal into the session of the request and only then moves the session to a
new id. The old id, which others may know, names an authenticated session in between.

* `Arrival.scope_along` — the calls of a scope: whoever it binds was found by its first look-up or
  is remembered;
* `Arrivals.Underway` — what holds while a login and any number of scopes take turns;
* `Arrivals.bound_iff` — a scope is bound to somebody who was written into the session last, by the
  login or by a scope that remembers them, before its look-up;
* `Arrivals.exposed` — a login during which a stranger's scope is bound to the principal.
-/
import WebLogin.Proofs.Concurrency.Logins
import WebLogin.Proofs.Login.Requests

namespace WebLogin

open StoreCall (Calls)

/-! ### The calls of one scope -/

/-- A request that presents a session and is given a scope. Whom it is remembered as depends on its
cookies alone. -/
structure Arrival (id : SessionId) where
  command : LoginCommand Calls
  started : ∃ handlers, command.started = some ⟨handlers, .perSession StoreCall.store⟩
  ctx : RequestContext
  presents : ctx.sessionId = some id
  unbound : ctx.principal = none
  remembered : Option Principal
  remembers : ∀ ctx', ctx'.requestCookies = ctx.requestCookies → ∃ ctx'',
    command.config.rememberMe.autoLogin ctx' = pure (ctx'', remembered) ∧
      ctx''.sessionId = ctx'.sessionId ∧ ctx''.principal = ctx'.principal

section Along

variable {ctx owner : RequestContext} {t : List StoreExchange} {id : SessionId}

/-- Looking for the session of a request, or making one, saves nothing. -/
theorem sessionOf_saves :
    (SessionBinder.sessionOf StoreCall.store ctx).Along (fun _ c => ∀ x, c ≠ .save x) Fair
      (fun _ _ => True) t := by
  have hcreate {f : Except StoreError Session → Calls (Step StoreError Session)}
      {t : List StoreExchange} (herror : ∀ e, f (.error e) = return (ctx, .error e))
      (hok : ∀ x, f (.ok x) = return (ctx.withSession (some x.id), .ok x)) :
      (StoreCall.store.create >>= f).Along (fun _ c => ∀ x, c ≠ .save x) Fair
        (fun _ _ => True) t := by
    refine Program.Along.ask (fun x hx => by cases hx) fun r _ => ?_
    show (f r).Along _ _ _ _
    cases r with
    | error e => rw [herror]; exact .done trivial
    | ok x => rw [hok]; exact .done trivial
  rw [SessionBinder.sessionOf]
  cases ctx.sessionId with
  | none => exact hcreate (fun _ => rfl) fun _ => rfl
  | some id =>
    refine Program.Along.ask (fun x hx => by cases hx) fun r _ => ?_
    rcases r with e | _ | x
    · exact .done trivial
    · exact hcreate (fun _ => rfl) fun _ => rfl
    · exact .done trivial

/-- A binding saves nobody else, and binds its principal to the request as well. -/
theorem binder_saves (p : Principal) :
    ((SessionBinder.perSession StoreCall.store).bind ctx p).Along
      (fun _ c => ∀ x, c = .save x → x.principal = some p) Fair
      (fun r _ => r.2 = .ok () → r.1.principal = some p) t := by
  have hsession : (SessionBinder.sessionOf StoreCall.store ctx).Along
      (fun _ c => ∀ x, c = .save x → x.principal = some p) Fair (fun _ _ => True) t :=
    sessionOf_saves.mono (fun _ _ h x hx => absurd hx (h x)) fun _ _ h => h
  refine hsession.bind fun r t₁ _ => ?_
  obtain ⟨ctx₁, e | x⟩ := r
  · exact .done fun hok => by cases hok
  · refine Program.Along.ask ?_ fun r _ => ?_
    · rintro y hy
      cases hy
      rfl
    · cases r with
      | error e => exact .done fun hok => by cases hok
      | ok _ => exact .done fun _ => rfl

/-- The restoring of a request looks its session up, once. -/
theorem restore_along (hid : ctx.sessionId = some id) (hnobody : ctx.principal = none) :
    ((SessionBinder.perSession StoreCall.store).restore ctx).Along
      (fun t c => OwnCalls ctx t c ∧ ∀ x, c ≠ .save x) Fair
      (fun r t => r.2 = .ok () → ∃ found, t = [⟨.get id, .ok found⟩] ∧
        r.1.principal = found.bind Session.principal ∧
        (∀ id', r.1.sessionId = some id' → id' = id) ∧
        r.1.requestCookies = ctx.requestCookies) [] := by
  simp only [SessionBinder.restore, hid]
  refine Program.Along.ask ⟨.inl hid, fun x hx => by cases hx⟩ fun r _ => ?_
  rcases r with e | _ | ⟨id', p⟩
  · exact .done fun hok => by cases hok
  · exact .done fun _ => ⟨none, rfl, hnobody, fun _ hid' => (by cases hid'), rfl⟩
  · have hkeeps (id'' : SessionId) (hid' : ctx.sessionId = some id'') : id'' = id :=
      Option.some.inj (hid'.symm.trans hid)
    cases p with
    | none => exact .done fun _ => ⟨_, rfl, hnobody, hkeeps, rfl⟩
    | some p => exact .done fun _ => ⟨_, rfl, rfl, hkeeps, rfl⟩

end Along

namespace Arrival

variable {id : SessionId}

/-- What a scope may call: it keeps to the ids that it knows, and saves nobody but whom it
remembers. -/
def May (a : Arrival id) (t : List StoreExchange) (c : StoreCall) : Prop :=
  OwnCalls a.ctx t c ∧ ∀ x, c = .save x → x.principal = a.remembered

/-- What a scope ends with: whoever its first look-up found, or else whom it remembers. -/
def Ends (a : Arrival id) (r : Step ScopeError Unit) (t : List StoreExchange) : Prop :=
  r.2 = .ok () → ∃ found t', t = ⟨.get id, .ok found⟩ :: t' ∧
    r.1.principal = (found.bind Session.principal).or a.remembered

theorem scope_along (a : Arrival id) :
    (a.command.scope a.ctx).Along a.May Fair a.Ends [] := by
  obtain ⟨handlers, hstarted⟩ := a.started
  rw [LoginCommand.scope, hstarted]
  have hrestore :
      ((SessionBinder.perSession StoreCall.store).restore a.ctx).Along a.May Fair _ [] :=
    (restore_along a.presents a.unbound).mono
      (fun _ _ h => ⟨h.1, fun x hx => absurd hx (h.2 x)⟩) fun _ _ h => h
  refine hrestore.bind fun r t hr => ?_
  obtain ⟨ctx₁, e | _⟩ := r
  · exact .done fun hok => by cases hok
  obtain ⟨found, rfl, hprincipal, hid, hcookies⟩ := hr rfl
  dsimp only at hprincipal hid hcookies ⊢
  cases hbound : ctx₁.principal with
  | some p =>
    rw [RequestContext.isAuthenticated, hbound]
    refine .done fun _ => ⟨found, [], rfl, ?_⟩
    rw [← hprincipal, hbound]
    rfl
  | none =>
    -- Nobody was found, so it is up to the cookies.
    obtain ⟨ctx₂, hauto, hsession, hkept⟩ := a.remembers ctx₁ hcookies
    rw [hbound] at hprincipal hkept
    rw [RequestContext.isAuthenticated, hbound, hauto]
    cases hremembered : a.remembered with
    | none =>
      refine .done fun _ => ⟨found, [], rfl, ?_⟩
      rw [hremembered, ← hprincipal, hkept]
      rfl
    | some p =>
      have hown : ∀ id', ctx₂.sessionId = some id' → Owns a.ctx [⟨.get id, .ok found⟩] id' := by
        intro id' hid'
        rw [hsession] at hid'
        rw [hid id' hid']
        exact .inl a.presents
      have hbind : ((SessionBinder.perSession StoreCall.store).bind ctx₂ p).Along a.May Fair _
          [⟨.get id, .ok found⟩] :=
        ((binder_along hown p).and (binder_saves p)).grows.mono
          (fun _ _ h => ⟨h.1, fun x hx => hremembered ▸ h.2 x hx⟩) fun _ _ h => h
      refine hbind.bind fun r t hr => ?_
      obtain ⟨ctx₃, e | _⟩ := r
      · exact .done fun hok => by cases hok
      · obtain ⟨⟨-, hp⟩, later, rfl⟩ := hr
        refine .done fun _ => ⟨found, later, rfl, ?_⟩
        rw [← hprincipal, hremembered]
        exact hp rfl

end Arrival

/-! ### A login and scopes -/

/-- Somebody who logs in on a session, and requests that present the same session meanwhile. -/
structure Arrivals (ι : Type) where
  id : SessionId
  visitor : Visitor
  presents : visitor.ctx.sessionId = some id
  arrival : ι → Arrival id

namespace Arrivals

open Snapshot (own)

variable {ι : Type} {a : Arrivals ι} {start : SessionId → Option Principal}

/-- The login comes without an index, and each scope with its own. -/
def request (a : Arrivals ι) : Option ι → LoginCommand Calls × LoginRequest
  | none => (a.visitor.command, .login a.visitor.ctx a.visitor.username a.visitor.password)
  | some i => ((a.arrival i).command, .scope (a.arrival i).ctx)

/-- The login and the scopes before their first calls. -/
def begun (a : Arrivals ι) (h : MemoryHost) :
    Snapshot StoreCall StoreCall.Reply (Option ι) LoginOutcome MemoryHost where
  host := h
  programs j := (a.request j).1.serve (a.request j).2
  log := []

/-- What the login or a scope may call after its own calls. -/
def May (a : Arrivals ι) : Option ι → List StoreExchange → StoreCall → Prop
  | none => OwnCalls a.visitor.ctx
  | some i => (a.arrival i).May

/-- What a scope ends with. -/
def Ends (a : Arrivals ι) : Option ι → LoginOutcome → List StoreExchange → Prop
  | some i, .scope r, t => (a.arrival i).Ends r t
  | _, _, _ => True

theorem owns_of_get {j : Option ι} {t : List StoreExchange} {id : SessionId}
    (h : a.May j t (.get id)) : id = a.id ∨ ∃ x, ⟨.create, .ok x⟩ ∈ t ∧ x.id = id := by
  cases j with
  | none =>
    rcases h with hid | hcreated
    · exact .inl (Option.some.inj (hid.symm.trans a.presents))
    · exact .inr hcreated
  | some i =>
    rcases h.1 with hid | hcreated
    · exact .inl (Option.some.inj (hid.symm.trans (a.arrival i).presents))
    · exact .inr hcreated

/-- What holds while the login and the scopes are under way. -/
structure Underway [DecidableEq ι] (a : Arrivals ι) (start : SessionId → Option Principal)
    (s : Snapshot StoreCall StoreCall.Reply (Option ι) LoginOutcome MemoryHost) : Prop where
  along : ∀ j, (s.programs j).Along (a.May j) Fair (a.Ends j) (own j s.log)
  keeps : s.host.Keeps start s.log
  known : a.id ∈ s.host.used
  fair : ∀ {j e}, (j, e) ∈ s.log → Fair e
  saves : ∀ {i x r}, (some i, ⟨.save x, r⟩) ∈ s.log → x.principal = (a.arrival i).remembered

variable [DecidableEq ι]
  {s s' : Snapshot StoreCall StoreCall.Reply (Option ι) LoginOutcome MemoryHost}

theorem Underway.begun {h : MemoryHost} (hs : h.store.Sound)
    (hused : ∀ {id entry}, h.store.find? id = some entry → id ∈ h.used) (hid : a.id ∈ h.used) :
    a.Underway (fun id => (h.store.find? id).bind fun e => e.session.principal) (a.begun h) where
  along j := by
    cases j with
    | none =>
      refine (login_along a.visitor.sharing a.visitor.ctx a.visitor.username
        a.visitor.password).bind fun _ _ _ => ?_
      exact .done trivial
    | some i =>
      refine (a.arrival i).scope_along.bind fun _ _ hends => ?_
      exact .done hends
  keeps := .begun hs hused
  known := hid
  fair he := by cases he
  saves hx := by cases hx

theorem Underway.step (h : a.Underway start s) {j : Option ι} {turn : MemoryTurn}
    (hstep : s.step MemoryHost.perform j turn = some s') : a.Underway start s' := by
  obtain ⟨c, next, r, host, hprogram, hperform, rfl⟩ := Snapshot.step_cases hstep
  have ha := MemoryHost.perform_answers hperform
  have hmay : a.May j (own j s.log) c := by
    have hcall := h.along j
    rw [hprogram] at hcall
    exact hcall.1
  refine ⟨Snapshot.step_along h.along hprogram (h.keeps.fair ha), h.keeps.answers ha j ?_,
    ha.used h.known, ?_, ?_⟩
  · -- Only the session itself and sessions made meanwhile are looked up.
    rintro id rfl
    rcases owns_of_get hmay with rfl | ⟨x, hx, rfl⟩
    · exact h.known
    · exact h.keeps.created (Snapshot.mem_own.1 hx)
  · intro k e he
    rcases List.mem_append.1 he with he | he
    · exact h.fair he
    · cases List.mem_singleton.1 he
      exact h.keeps.fair ha
  · intro i x r' hx
    rcases List.mem_append.1 hx with hx | hx
    · exact h.saves hx
    · cases List.mem_singleton.1 hx
      exact hmay.2 x rfl

/-- Whoever writes a principal saves it: the login, or a scope that remembers it. -/
theorem Underway.writer (h : a.Underway start s) {j : Option ι} {e : StoreExchange}
    {id : SessionId} {q : Principal} (he : (j, e) ∈ s.log)
    (hwritten : StoreExchange.written? e = some ⟨id, some q⟩) :
    e = ⟨.save ⟨id, some q⟩, .ok ()⟩ ∧
      ∀ i, j = some i → (a.arrival i).remembered = some q := by
  obtain ⟨c, r⟩ := e
  cases c with
  | create =>
    cases r with
    | error e => cases hwritten
    | ok x =>
      -- A new session holds nobody.
      have hnobody : x.principal = none := h.fair he
      rw [Option.some.inj hwritten] at hnobody
      cases hnobody
  | get => cases hwritten
  | save x =>
    cases r with
    | error e => cases hwritten
    | ok _ =>
      obtain rfl : x = ⟨id, some q⟩ := Option.some.inj hwritten
      refine ⟨rfl, ?_⟩
      rintro i rfl
      exact (h.saves he).symm
  | invalidate => cases hwritten

/-! ### Who is bound -/

/-- The first look-up of a scope: what had happened before it, and what it found. -/
def Looks (a : Arrivals ι) (i : ι) (log before : List (Option ι × StoreExchange))
    (found : Option Session) : Prop :=
  ∃ after, log = before ++ (some i, ⟨.get a.id, .ok found⟩) :: after ∧ own (some i) before = []

/-- Somebody stands in the session after some calls: one of them saved that principal, and none of
those that follow wrote the session. -/
def Stands (a : Arrivals ι) (q : Principal) (log : List (Option ι × StoreExchange)) : Prop :=
  ∃ j before after, log = before ++ (j, ⟨.save ⟨a.id, some q⟩, .ok ()⟩) :: after ∧
    (∀ e ∈ after, ∀ x, StoreExchange.written? e.2 = some x → x.id ≠ a.id) ∧
    ∀ i, j = some i → (a.arrival i).remembered = some q

theorem Underway.looks (h : a.Underway start s) {i : ι} {ctx : RequestContext}
    (hdone : s.programs (some i) = .done (.scope (ctx, .ok ()))) :
    ∃ before found, a.Looks i s.log before found ∧
      ctx.principal = (found.bind Session.principal).or (a.arrival i).remembered := by
  have hended := h.along (some i)
  rw [hdone] at hended
  obtain ⟨found, t, hown, hprincipal⟩ := hended rfl
  obtain ⟨before, after, hlog, hbefore, -⟩ :=
    Snapshot.exists_of_own (hown.trans (List.nil_append _).symm)
  exact ⟨before, found, ⟨after, hlog, hbefore⟩, hprincipal⟩

theorem Looks.unique {i : ι} {log before before' : List (Option ι × StoreExchange)}
    {found found' : Option Session} (h : a.Looks i log before found)
    (h' : a.Looks i log before' found') : found = found' := by
  obtain ⟨after, hlog, hbefore⟩ := h
  obtain ⟨after', hlog', hbefore'⟩ := h'
  have hown := congrArg (own (some i)) (hlog.symm.trans hlog')
  -- Both are the first call of the scope.
  rw [List.append_cons, List.append_cons before', Snapshot.own_append, Snapshot.own_append,
    Snapshot.own_append, Snapshot.own_append, hbefore, hbefore', Snapshot.own_singleton,
    Snapshot.own_singleton] at hown
  obtain ⟨hfirst, -⟩ := List.cons.inj hown
  cases hfirst
  rfl

/-- What a scope finds in a session that nobody was in when the login began. -/
theorem Underway.stands (h : a.Underway start s) (hstart : start a.id = none) {i : ι}
    {before : List (Option ι × StoreExchange)} {found : Option Session} {q : Principal}
    (hlooks : a.Looks i s.log before found) (hq : found.bind Session.principal = some q) :
    found = some ⟨a.id, some q⟩ ∧ a.Stands q before := by
  obtain ⟨after, hlog, -⟩ := hlooks
  obtain ⟨x, rfl, hx⟩ := Option.bind_eq_some_iff.1 hq
  obtain rfl : x = ⟨a.id, lastWritten a.id (start a.id) before⟩ := h.keeps.found hlog
  have hlast : lastWritten a.id (start a.id) before = some q := hx
  rw [hlast]
  refine ⟨rfl, ?_⟩
  rw [hstart] at hlast
  rcases lastWritten_cases hlast with ⟨hnone, -⟩ | ⟨b, ⟨j, e⟩, later, rfl, hwritten, hlater⟩
  · cases hnone
  · have he : (j, e) ∈ s.log := by
      rw [hlog]
      simp
    obtain ⟨rfl, hj⟩ := h.writer he hwritten
    exact ⟨j, b, later, rfl, hlater, hj⟩

/-- Whatever turns a login and some scopes take on a session that nobody was in, a scope is bound to
somebody exactly if its look-up comes when they stand in the session and finds them there, or if it
finds nobody and remembers them. Those who stand there were saved by the login, which has then not
moved the session yet, or by a scope that remembers them. -/
theorem bound_iff {h : MemoryHost} (hs : h.store.Sound)
    (hused : ∀ {id entry}, h.store.find? id = some entry → id ∈ h.used) (hid : a.id ∈ h.used)
    (hnobody : ((h.store.find? a.id).bind fun e => e.session.principal) = none)
    {schedule : List (Option ι × MemoryTurn)}
    (hrun : (a.begun h).run MemoryHost.perform schedule = some s) {i : ι} {ctx : RequestContext}
    (hdone : s.programs (some i) = .done (.scope (ctx, .ok ()))) (q : Principal) :
    ctx.principal = some q ↔
      (∃ before, a.Looks i s.log before (some ⟨a.id, some q⟩) ∧ a.Stands q before) ∨
      (a.arrival i).remembered = some q ∧
        ∃ before found, a.Looks i s.log before found ∧ found.bind Session.principal = none := by
  have hunderway : a.Underway
      (fun id => (h.store.find? id).bind fun e => e.session.principal) s :=
    Snapshot.run_induction (fun _ _ _ _ hu hstep => hu.step hstep) (.begun hs hused hid) hrun
  obtain ⟨before, found, hlooks, hprincipal⟩ := hunderway.looks hdone
  rw [hprincipal]
  cases hfound : found.bind Session.principal with
  | none =>
    rw [Option.none_or]
    constructor
    · exact fun hq => .inr ⟨hq, before, found, hlooks, hfound⟩
    · rintro (⟨before', hlooks', -⟩ | ⟨hq, -⟩)
      · rw [hlooks.unique hlooks'] at hfound
        cases hfound
      · exact hq
  | some p =>
    rw [Option.some_or]
    constructor
    · rintro hq
      obtain rfl := Option.some.inj hq
      obtain ⟨rfl, hstands⟩ := hunderway.stands hnobody hlooks hfound
      exact .inl ⟨before, hlooks, hstands⟩
    · rintro (⟨before', hlooks', -⟩ | ⟨-, before', found', hlooks', hnone⟩)
      · rw [hlooks.unique hlooks'] at hfound
        exact hfound.symm
      · rw [← hlooks.unique hlooks', hfound] at hnone
        cases hnone

/-! ### A stranger in the session -/

/-- Alice logs in on a session whose id a stranger knows. -/
def planted : Arrivals Unit where
  id := ⟨0⟩
  visitor :=
    { command := Logins.openCommand, sharing := Logins.sharesStore_openCommand
      ctx := { sessionId := some ⟨0⟩ }, username := "alice", password := "" }
  presents := rfl
  arrival _ :=
    { command := Logins.openCommand, started := ⟨_, rfl⟩, ctx := { sessionId := some ⟨0⟩ }
      presents := rfl, unbound := rfl, remembered := none
      remembers := fun ctx' _ => ⟨ctx', rfl, rfl, rfl⟩ }

/-- The stranger asks for a scope after alice was saved and before her session is moved. -/
def early : List (Option Unit × MemoryTurn) :=
  [none, none, some (), none, none, none, none].map (·, ⟨0, ⟨1⟩⟩)

theorem bound_iff_early : ∃ s ctx,
    (planted.begun Logins.shared).run MemoryHost.perform early = some s ∧
      s.programs (some ()) = .done (.scope (ctx, .ok ())) ∧
      ctx.principal = some ⟨"alice", .empty⟩ ∧
      ∃ before, planted.Looks () s.log before (some ⟨⟨0⟩, some ⟨"alice", .empty⟩⟩) ∧
        planted.Stands ⟨"alice", .empty⟩ before := by
  have hused {id : SessionId} {entry : MemoryEntry}
      (h : Logins.shared.store.find? id = some entry) : id ∈ Logins.shared.used :=
    (Logins.find?_shared h).1 ▸ List.mem_cons_self
  obtain ⟨s, ctx, hrun, hdone, hprincipal⟩ : ∃ s ctx,
      (planted.begun Logins.shared).run MemoryHost.perform early = some s ∧
        s.programs (some ()) = .done (.scope (ctx, .ok ())) ∧
        ctx.principal = some ⟨"alice", .empty⟩ := ⟨_, _, rfl, rfl, rfl⟩
  refine ⟨s, ctx, hrun, hdone, hprincipal, ?_⟩
  have hbound := bound_iff Logins.sound_shared hused List.mem_cons_self rfl hrun hdone
    ⟨"alice", .empty⟩
  rcases hbound.1 hprincipal with hstands | ⟨hremembered, -⟩
  · exact hstands
  · cases hremembered

/-- Alice ends up in a new session, but the stranger has been bound to her. -/
theorem exposed : Logins.shared.session? planted.id = some ⟨planted.id, none⟩ ∧ ∃ s ctx ctx',
    (planted.begun Logins.shared).run MemoryHost.perform early = some s ∧
      s.programs none = .done (.login (ctx, .ok ⟨"alice", .empty⟩)) ∧
      s.programs (some ()) = .done (.scope (ctx', .ok ())) ∧
      ctx.sessionId = some ⟨1⟩ ∧ ctx'.principal = some ⟨"alice", .empty⟩ :=
  ⟨rfl, _, _, _, rfl, rfl, rfl, rfl, rfl⟩

end Arrivals

end WebLogin
