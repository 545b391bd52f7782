/-
Sessions that somebody logs in with although nobody was in them.

A login moves the request to a new session, so that an id from before the login never names the
session of somebody. A remembered login does not: `LoginCommand.scope` binds the principal to the
session that the request came with. Whatever else is asked of a command, in any order, this is the
only way into a session that nobody is in.

* `LoginCommand.serve_yields` — one request;
* `LoginCommand.Course.entered_iff` — any requests, between which sessions may lapse;
* `LoginCommand.remembers_service_iff` — when a token leads into a session;
* `Deployment.rotates` — the command of a service is one of those that this is about.
-/
import WebLogin.Proofs.Login.Requests
import WebLogin.Proofs.Startup
import WebLogin.Proofs.Store.Moments

namespace WebLogin

variable {σ τ ε : Type} {M : StoreModel σ τ} {store : SessionStore (StateT σ (Except ε))}
  {k : Nat} {s s' : σ} {id : SessionId}

theorem Authentication.Moved.guarded {old : Option SessionId} {p : Principal} {new : SessionId}
    (h : Moved M k s old p new s') : M.Guarded k s s' where
  valid := h.valid
  known hid := h.known_mono _ hid
  nobody {id} hid hp := by
    rw [StoreModel.holder_of_view (h.view id hid)]
    split
    · rfl
    · exact (StoreModel.holder_of_view rfl).symm.trans hp

theorem SessionBinder.holder_of_unboundView {old : Option SessionId}
    (hview : M.view s' = unboundView M s old) (hp : M.holder s id = none) :
    M.holder s' id = none := by
  rw [StoreModel.holder_of_view rfl] at hp
  rw [StoreModel.holder_of_view (congrFun hview id)]
  cases old with
  | none => exact hp
  | some old =>
    rw [unboundView]
    by_cases hid : id = old
    · rw [← hid, Function.update_self, unboundEntry]
      cases he : M.view s id with
      | none => rfl
      | some e =>
        rw [he, Option.bind_some] at hp
        rw [Option.map_some, hp, if_neg (by simp), Option.bind_some, hp]
    · rwa [Function.update_of_ne hid]

/-- After a binding, somebody is in a session that nobody was in if the request came with it. -/
theorem SessionBinder.Bound.holder_iff {old : Option SessionId} {q p : Principal} {new : SessionId}
    (hbound : Bound M k s old q new s') (hid : M.known s id) (hnobody : M.holder s id = none)
    (hold : old = some id → (M.session? s id).isSome) :
    M.holder s' id = some p ↔ old = some id ∧ q = p := by
  rw [StoreModel.holder_of_view (congrFun hbound.view id)]
  by_cases hnew : id = new
  · -- A session that was in use is not a new one.
    subst hnew
    have horigin : old = some id := hbound.origin.resolve_right fun ho => ho.1 hid
    rw [Function.update_self]
    exact ⟨fun hp => ⟨horigin, Option.some.inj hp⟩, fun hp => congrArg some hp.2⟩
  · rw [Function.update_of_ne hnew, ← StoreModel.holder_of_view rfl, hnobody]
    refine ⟨fun hp => absurd hp (by simp), fun hp => ?_⟩
    rcases hbound.origin with ho | ho
    · exact absurd (Option.some.inj (hp.1.symm.trans ho)) hnew
    · have hsome := hold hp.1
      rw [ho.2 id hp.1] at hsome
      cases hsome

/-- A request that comes out of the restoring with a session id has a session. -/
theorem SessionBinder.isSome_of_restored {sessions : SessionId → Option Session}
    {ctx : RequestContext} (hid : (restored sessions ctx).sessionId = some id) :
    (sessions id).isSome := by
  rw [restored] at hid
  split at hid
  · rename_i hnone
    cases hnone.symm.trans hid
  · rename_i old hold
    split at hid
    · cases hid
    · rename_i x hx
      have hsame : (x.principal.elim ctx ctx.bindPrincipal).sessionId = ctx.sessionId := by
        cases x.principal <;> rfl
      obtain rfl : old = id := Option.some.inj (hold.symm.trans (hsame.symm.trans hid))
      rw [hx]
      rfl

/-! ### One request -/

namespace Authentication

variable {a : Authentication (StateT σ (Except ε))}

theorem fail_yields (hrm : a.rememberMe.Apart M) (hs : M.valid k s) (ctx : RequestContext)
    (f : LoginFailure) :
    ∃ ctx' s', Yields (a.fail ctx f) s (ctx', .error f) s' ∧ M.Same k s s' := by
  obtain ⟨ctx', s', hfail, hsame⟩ := hrm.loginFail ctx hs
  exact ⟨ctx', s', hfail.bind (.pure _ _), hsame⟩

/-- A login puts nobody into a session that nobody is in. -/
theorem run_guarded (h : M.Laws store fun _ => False) (hs : M.valid (k + 2) s)
    (hverifier : a.verifier.Apart M) (hbinder : a.binder = .perSession store)
    (hstrategy : a.strategy = .changeId store) (hrm : a.rememberMe.Apart M) (ctx : RequestContext)
    (username password : String) :
    ∃ ctx' r s', Yields (a.run ctx username password) s (ctx', r) s' ∧ M.Guarded k s s' := by
  have hfails {s₁ : σ} (hs₁ : M.Same (k + 2) s s₁) (f : LoginFailure) :
      ∃ ctx' r s', Yields (a.fail ctx f) s₁ (ctx', r) s' ∧ M.Guarded k s s' := by
    obtain ⟨ctx', s', hfail, hsame⟩ := fail_yields hrm (h.weaken (h.weaken hs₁.valid)) ctx f
    exact ⟨ctx', _, s', hfail, hs₁.guarded.trans hsame.guarded⟩
  rw [run]
  cases Credential.parse username password with
  | error e => exact hfails (.refl hs) _
  | ok credential =>
    obtain ⟨r, s₁, hverify, hsame⟩ := hverifier credential hs
    cases r with
    | error e =>
      obtain ⟨ctx', r, s', hfail, hguarded⟩ := hfails hsame (.ofVerificationError e)
      exact ⟨ctx', r, s', hverify.bind hfail, hguarded⟩
    | ok identity =>
      obtain ⟨new, s₂, hbind, hmoved⟩ :=
        bind_moves h hsame.valid hbinder hstrategy ctx (.ofIdentity identity)
      obtain ⟨ctx', s', hsuccess, hsame'⟩ := hrm.loginSuccess
        ((ctx.bindPrincipal (.ofIdentity identity)).withSession (some new)) (.ofIdentity identity)
        hmoved.valid
      refine ⟨ctx', .ok (.ofIdentity identity), s', hverify.bind ?_,
        hsame.guarded.trans (hmoved.guarded.trans hsame'.guarded)⟩
      simp only [complete]
      exact hbind.bind (hsuccess.bind (.pure _ _))

end Authentication

namespace LoginCommand

variable {c : LoginCommand (StateT σ (Except ε))}

/-- A started command that keeps logins in sessions and changes the id of a session at a login.
Nobody else puts anybody into a session. -/
structure Rotates (M : StoreModel σ τ) (store : SessionStore (StateT σ (Except ε)))
    (c : LoginCommand (StateT σ (Except ε))) : Prop where
  started : ∃ handlers, c.started = some ⟨handlers, .perSession store⟩ ∧
    ∀ handler ∈ handlers, handler.Harmless M
  strategy : c.config.strategy = .changeId store
  verifier : c.config.verifier.Apart M
  rememberMe : c.config.rememberMe.Apart M

/-- A request gets a scope, its session has an id but no principal, and remember-me knows one. -/
def Remembers (c : LoginCommand (StateT σ (Except ε))) (store : SessionStore (StateT σ (Except ε)))
    (id : SessionId) (s : σ) (req : LoginRequest) (p : Principal) : Prop :=
  ∃ ctx ctx₁ s₁ ctx₂ s₂, req = .scope ctx ∧
    Yields ((SessionBinder.perSession store).restore ctx) s (ctx₁, .ok ()) s₁ ∧
    ctx₁.sessionId = some id ∧ ctx₁.principal = none ∧
    Yields (c.config.rememberMe.autoLogin ctx₁) s₁ (ctx₂, some p) s₂

theorem remembers_iff {ctx ctx₁ : RequestContext} {s₁ : σ} {p : Principal}
    (hrestore : Yields ((SessionBinder.perSession store).restore ctx) s (ctx₁, .ok ()) s₁) :
    c.Remembers store id s (.scope ctx) p ↔ ctx₁.sessionId = some id ∧ ctx₁.principal = none ∧
      ∃ ctx₂ s₂, Yields (c.config.rememberMe.autoLogin ctx₁) s₁ (ctx₂, some p) s₂ := by
  constructor
  · rintro ⟨ctx', ctx₁', s₁', ctx₂, s₂, hreq, hrestore', hid, hp, hauto⟩
    obtain rfl : ctx = ctx' := LoginRequest.scope.inj hreq
    obtain ⟨heq, rfl⟩ := hrestore.eq hrestore'
    obtain rfl : ctx₁ = ctx₁' := congrArg Prod.fst heq
    exact ⟨hid, hp, ctx₂, s₂, hauto⟩
  · rintro ⟨hid, hp, ctx₂, s₂, hauto⟩
    exact ⟨ctx, ctx₁, s₁, ctx₂, s₂, rfl, hrestore, hid, hp, hauto⟩

/-- A request puts nobody into a session that nobody is in, unless it is remembered. -/
structure Served (M : StoreModel σ τ) (store : SessionStore (StateT σ (Except ε)))
    (c : LoginCommand (StateT σ (Except ε))) (k : Nat) (s : σ) (req : LoginRequest) (s' : σ) :
    Prop where
  valid : M.valid k s'
  known : ∀ {id}, M.known s id → M.known s' id
  holder : ∀ {id}, M.known s id → M.holder s id = none →
    ∀ p, M.holder s' id = some p ↔ c.Remembers store id s req p

theorem served_of_guarded {req : LoginRequest} (h : M.Guarded k s s')
    (hreq : ∀ id p, ¬c.Remembers store id s req p) : c.Served M store k s req s' where
  valid := h.valid
  known := h.known
  holder {id} hid hnobody p := by
    rw [h.nobody hid hnobody]
    exact ⟨fun hp => absurd hp (by simp), fun hp => absurd hp (hreq id p)⟩

theorem scope_served (h : M.Laws store fun _ => False) (hc : c.Rotates M store)
    (hs : M.valid (k + 1) s) (ctx : RequestContext) :
    ∃ step s', Yields (c.scope ctx) s step s' ∧ c.Served M store k s (.scope ctx) s' := by
  obtain ⟨handlers, hstarted, -⟩ := hc.started
  obtain ⟨s₁, hrestore, hsame⟩ := SessionBinder.restore_yields h not_false hs ctx
  have hsession : ∀ id, (SessionBinder.restored (M.session? s) ctx).sessionId = some id →
      (M.session? s₁ id).isSome := by
    intro id hid
    rw [hsame.session?]
    exact SessionBinder.isSome_of_restored hid
  generalize SessionBinder.restored (M.session? s) ctx = ctx₁ at hrestore hsession
  cases hp : ctx₁.principal with
  | some q =>
    -- The principal of the session, or one that the request came with, is kept.
    refine ⟨_, s₁, scope_of_isSome hstarted hrestore (Option.isSome_of_eq_some hp),
      served_of_guarded ⟨h.weaken hsame.valid, hsame.guarded.known, hsame.guarded.nobody⟩ ?_⟩
    intro id p hremembers
    rw [remembers_iff hrestore, hp] at hremembers
    cases hremembers.2.1
  | none =>
    obtain ⟨ctx₂, remembered, s₂, hauto, hsame₂, hid₂⟩ := hc.rememberMe.autoLogin ctx₁ hsame.valid
    have hguarded := hsame.guarded.trans hsame₂.guarded
    cases remembered with
    | none =>
      refine ⟨_, s₂, scope_of_none hstarted hrestore hp hauto,
        served_of_guarded ⟨h.weaken hguarded.valid, hguarded.known, hguarded.nobody⟩ ?_⟩
      intro id p hremembers
      obtain ⟨-, -, ctx₂', s₂', hauto'⟩ := (remembers_iff hrestore).1 hremembers
      cases congrArg Prod.snd (hauto.eq hauto').1
    | some q =>
      obtain ⟨new, s', hbind, hbound⟩ :=
        SessionBinder.bind_yields h not_false not_false not_false hsame₂.valid ctx₂ q
      refine ⟨_, s', scope_of_some hstarted hrestore hp hauto hbind, hbound.valid,
        fun hid => hbound.known_mono _ (hguarded.known hid), ?_⟩
      intro id hid hnobody p
      have hold : ctx₂.sessionId = some id → (M.session? s₂ id).isSome := by
        rw [hid₂, hsame₂.session?]
        exact hsession id
      rw [remembers_iff hrestore,
        hbound.holder_iff (hguarded.known hid) (hguarded.nobody hid hnobody) hold, hid₂]
      refine and_congr_right fun _ => ?_
      constructor
      · rintro rfl
        exact ⟨hp, ctx₂, s₂, hauto⟩
      · rintro ⟨-, ctx₂', s₂', hauto'⟩
        exact Option.some.inj (congrArg Prod.snd (hauto.eq hauto').1)

theorem logout_guarded (h : M.Laws store fun _ => False) (hc : c.Rotates M store)
    (hs : M.valid k s) (ctx : RequestContext) (given : Option Principal) :
    ∃ step s', Yields (c.logout ctx given) s step s' ∧ M.Guarded k s s' := by
  obtain ⟨handlers, hstarted, hharmless⟩ := hc.started
  obtain ⟨ctx₁, failures, s₁, hhandlers, hguarded⟩ :=
    LogoutSequence.runHandlers_guarded (given <|> ctx.principal) hharmless ctx hs
  obtain ⟨s', hrun, hvalid, hknown, hview⟩ :=
    logout_of_handlers h not_false not_false hstarted hhandlers hguarded.valid
  refine ⟨_, s', hrun, hvalid, fun hid => ?_, fun hid hnobody => ?_⟩
  · rw [hknown]
    exact hguarded.known hid
  · exact SessionBinder.holder_of_unboundView hview (hguarded.nobody hid hnobody)

/-- Every request is served, and puts nobody into a session that nobody is in, unless it is
remembered. -/
theorem serve_yields (h : M.Laws store fun _ => False) (hc : c.Rotates M store)
    (hs : M.valid (k + 2) s) (req : LoginRequest) :
    ∃ out s', Yields (c.serve req) s out s' ∧ c.Served M store k s req s' := by
  cases req with
  | scope ctx =>
    obtain ⟨step, s', hrun, hserved⟩ := scope_served h hc hs ctx
    exact ⟨_, s', hrun.bind (.pure _ _), h.weaken hserved.valid, hserved.known, hserved.holder⟩
  | login ctx username password =>
    obtain ⟨handlers, hstarted, -⟩ := hc.started
    obtain ⟨ctx', r, s', hrun, hguarded⟩ := Authentication.run_guarded
      (a := c.authentication ⟨handlers, .perSession store⟩) h hs hc.verifier rfl hc.strategy
      hc.rememberMe ctx username password
    have hlogin : Yields (c.login ctx username password) s (ctx', r.mapError .failed) s' := by
      simp only [login, hstarted]
      exact hrun.bind (.pure _ _)
    exact ⟨_, s', hlogin.bind (.pure _ _),
      served_of_guarded hguarded fun _ _ hremembers => by
        obtain ⟨_, _, _, _, _, hreq, -⟩ := hremembers
        cases hreq⟩
  | logout ctx given =>
    obtain ⟨step, s', hrun, hguarded⟩ := logout_guarded h hc (h.weaken (h.weaken hs)) ctx given
    exact ⟨_, s', hrun.bind (.pure _ _),
      served_of_guarded hguarded fun _ _ hremembers => by
        obtain ⟨_, _, _, _, _, hreq, -⟩ := hremembers
        cases hreq⟩

/-! ### Any requests -/

end LoginCommand

/-- A request with the states before and after it. -/
structure LoginEvent (σ : Type) where
  before : σ
  request : LoginRequest
  after : σ

namespace LoginCommand

variable {c : LoginCommand (StateT σ (Except ε))} {events : List (LoginEvent σ)}

/-- A command serves requests, one after the other, and between them sessions may lapse. -/
inductive Course (M : StoreModel σ τ) (c : LoginCommand (StateT σ (Except ε))) :
    σ → List (LoginEvent σ) → σ → Prop where
  | nil (s : σ) : Course M c s [] s
  | lapse {s s₁ s' : σ} {events : List (LoginEvent σ)} :
      M.Lapse s s₁ → Course M c s₁ events s' → Course M c s events s'
  | serve {s s₁ s' : σ} {req : LoginRequest} {out : LoginOutcome} {events : List (LoginEvent σ)} :
      Yields (c.serve req) s out s₁ → Course M c s₁ events s' →
        Course M c s (⟨s, req, s₁⟩ :: events) s'

theorem Course.valid (h : M.Laws store fun _ => False) (hc : c.Rotates M store)
    (hcourse : Course M c s events s') (hs : M.valid (k + 2 * events.length) s) : M.valid k s' := by
  induction hcourse with
  | nil => exact hs
  | lapse hlapse _ ih => exact ih (hlapse.valid hs)
  | serve hrun _ ih =>
    obtain ⟨out, s₁, hrun', hserved⟩ := serve_yields h hc (by exact hs) _
    obtain ⟨-, rfl⟩ := hrun.eq hrun'
    exact ih hserved.valid

/-- In a session that nobody is in, somebody is found at some time exactly if some request was
remembered in it. -/
theorem Course.entered (h : M.Laws store fun _ => False) (hc : c.Rotates M store)
    (hcourse : Course M c s events s') (hs : M.valid (2 * events.length) s) (hid : M.known s id)
    (hnobody : M.holder s id = none) :
    (∃ e ∈ events, ∃ p, M.holder e.after id = some p) ↔
      ∃ e ∈ events, ∃ p, c.Remembers store id e.before e.request p := by
  induction hcourse with
  | nil => simp
  | lapse hlapse _ ih =>
    refine ih (hlapse.valid hs) (hlapse.known hid) ?_
    rcases hlapse.view id with hview | hview
    · rwa [StoreModel.holder_of_view hview, ← StoreModel.holder_of_view rfl]
    · rw [StoreModel.holder_of_view hview, Option.bind_none]
  | @serve s s₁ s' req out events hrun _ ih =>
    obtain ⟨out', s₁', hrun', hserved⟩ := serve_yields h hc (by exact hs) req
    obtain ⟨-, rfl⟩ := hrun.eq hrun'
    have hfirst (p : Principal) := hserved.holder hid hnobody p
    simp only [List.mem_cons, exists_eq_or_imp, hfirst]
    -- Once somebody has come in, nothing is left to be said about the rest.
    cases hafter : M.holder s₁ id with
    | some p =>
      have hremembers := (hfirst p).1 hafter
      exact iff_of_true (.inl ⟨p, hremembers⟩) (.inl ⟨p, hremembers⟩)
    | none => rw [ih hserved.valid (hserved.known hid) hafter]

/-- Whatever is asked of a command that changes the id of a session at a login: every request is
served, and nobody comes into a session that nobody is in, unless a request gets its scope there
and is remembered. -/
theorem Course.entered_iff (h : M.Laws store fun _ => False) (hc : c.Rotates M store)
    (hcourse : Course M c s events s') (hs : M.valid (2 * events.length + 2) s) {x : Session}
    (hx : M.session? s id = some x) (hp : x.principal = none) :
    (∀ req, ∃ out s₁, Yields (c.serve req) s' out s₁) ∧
      ((∃ e ∈ events, ∃ p, M.holder e.after id = some p) ↔
        ∃ e ∈ events, ∃ p, c.Remembers store id e.before e.request p) := by
  constructor
  · intro req
    have hs' : M.valid 2 s' := hcourse.valid h hc (Nat.add_comm 2 _ ▸ hs)
    obtain ⟨out, s₁, hrun, -⟩ := serve_yields (k := 0) h hc hs' req
    exact ⟨out, s₁, hrun⟩
  · refine hcourse.entered h hc (h.weaken (h.weaken hs)) (h.known_of_session hs hx) ?_
    rw [StoreModel.holder, hx, Option.bind_some, hp]

/-! ### Who is remembered -/

theorem not_remembers_null (hrm : c.config.rememberMe = .null) (req : LoginRequest)
    (p : Principal) : ¬c.Remembers store id s req p := by
  rintro ⟨ctx, ctx₁, s₁, ctx₂, s₂, -, -, -, -, hauto⟩
  rw [hrm] at hauto
  cases congrArg Prod.snd (hauto.eq (.pure (ctx₁, none) s₁)).1

/-- Remembering by tokens, a request is remembered in a session if nobody is in the session and the
request brings a token that is accepted. -/
theorem remembers_service_iff (h : M.Laws store fun _ => False) (hs : M.valid k s)
    {rc : RememberMeConfig} {clock : StateT σ (Except ε) Timestamp} {now : Timestamp}
    (hrm : c.config.rememberMe = rc.service clock) {ctx : RequestContext}
    (hclock : ∀ step s₁, Yields ((SessionBinder.perSession store).restore ctx) s step s₁ →
      Yields clock s₁ now s₁)
    (hctx : ctx.principal = none) (p : Principal) :
    c.Remembers store id s (.scope ctx) p ↔
      ctx.sessionId = some id ∧ M.session? s id = some ⟨id, none⟩ ∧
        ∃ token claims, ctx.requestCookie? rc.cookieName = some token ∧
          Token.verify rc.secret now token = .ok claims ∧ claims.principal = p := by
  obtain ⟨s₁, hrestore, -⟩ := SessionBinder.restore_yields h not_false hs ctx
  have htime := hclock _ s₁ hrestore
  rw [SessionBinder.restored_eq hctx] at hrestore
  rw [remembers_iff hrestore, hrm, ← and_assoc, ← and_assoc]
  refine and_congr ?_ ?_
  · rw [Option.filter_eq_some_iff]
    constructor
    · rintro ⟨⟨hid, hsome⟩, hnobody⟩
      obtain ⟨x, hx⟩ := Option.isSome_iff_exists.1 hsome
      rw [hid, Option.bind_some, StoreModel.holder, hx, Option.bind_some] at hnobody
      obtain rfl := h.id_eq hs hx
      refine ⟨hid, hx.trans (congrArg some ?_)⟩
      rw [← hnobody]
    · rintro ⟨hid, hx⟩
      refine ⟨⟨hid, by rw [hx]; rfl⟩, ?_⟩
      rw [hid, Option.bind_some, StoreModel.holder, hx, Option.bind_some]
  · generalize hctx₁ : RequestContext.mk _ _ _ _ = ctx₁
    have hcookies : ctx₁.requestCookie? rc.cookieName = ctx.requestCookie? rc.cookieName := by
      rw [← hctx₁]
      rfl
    have hauto : Yields ((rc.service clock).autoLogin ctx₁) s₁ (rc.autoLogin now ctx₁) s₁ :=
      htime.bind (.pure _ _)
    constructor
    · rintro ⟨ctx₂, s₂, hauto'⟩
      have hsome := (hauto.eq hauto').1
      rw [RememberMeConfig.autoLogin, hcookies] at hsome
      split at hsome
      · cases congrArg Prod.snd hsome
      · rename_i token htoken
        split at hsome
        · rename_i claims hverify
          exact ⟨token, claims, htoken, hverify, Option.some.inj (congrArg Prod.snd hsome)⟩
        · cases congrArg Prod.snd hsome
    · rintro ⟨token, claims, htoken, hverify, rfl⟩
      refine ⟨ctx₁, s₁, ?_⟩
      have hsome : rc.autoLogin now ctx₁ = (ctx₁, some claims.principal) := by
        simp only [RememberMeConfig.autoLogin, hcookies, htoken, hverify]
      rwa [hsome] at hauto

end LoginCommand

/-- Settings that keep logins in sessions lead to such a command. -/
theorem Deployment.rotates (h : M.Laws store fun _ => False) {settings : Settings}
    (hmode : settings.login.mode = .perSession) {clock : StateT σ (Except ε) Timestamp}
    (hclock : ∀ s, ∃ t, Yields clock s t s) {verifier : Verifier (StateT σ (Except ε))}
    (hverifier : verifier.Apart M) :
    ∃ c, command settings clock store verifier = .ok c ∧ c.Rotates M store := by
  refine ⟨_, command_eq hmode clock store verifier, ⟨_, rfl, ?_⟩, ?_, hverifier, ?_⟩
  · exact forall_logoutHandlers (fun ends => LogoutHandler.harmless_securityContext h ends)
      (fun rc => LogoutHandler.harmless_rememberMe rc)
      fun names => LogoutHandler.harmless_cookieClearing names
  · simp only [loginConfig, hmode, Mode.isPerClient]
    rfl
  · show (loginConfig settings clock store verifier).rememberMe.Apart M
    rw [loginConfig]
    dsimp only
    split
    · exact (rememberMeConfig settings).apart_service hclock
    · exact RememberMe.apart_null

namespace LoginCommand

/-! ### A session that was waiting -/

/-- A world in which one session was made, with nobody in it. -/
def waiting : World Unit where
  store := ⟨60, [(World.counting 0, ⟨.fresh (World.counting 0), 60000⟩)]⟩
  clock := 0
  drawn := 1
  outside := ()

/-- Logins are remembered for ten minutes. -/
def tenMinutes : RememberMeConfig := ⟨"remember-me", "secret", 600⟩

/-- A clock that always shows the epoch. -/
def epoch : World.Run Unit Timestamp := return ⟨0⟩

/-- A configuration that remembers logins and changes the id of a session at a login. -/
def rememberingConfig : LoginConfig (World.Run Unit) where
  verifier := ⟨fun _ => return .error .unknownIdentity⟩
  store := some (World.sessionStore World.counting)
  strategy := .changeId (World.sessionStore World.counting)
  rememberMe := tenMinutes.service epoch
  handlers := none
  mode := .perSession
  invalidateSession := false

/-- The started command of that configuration. -/
def remembering : LoginCommand (World.Run Unit) :=
  ⟨rememberingConfig,
    some ⟨handlersOf rememberingConfig, .perSession (World.sessionStore World.counting)⟩⟩

/-- How sessions in memory are read here. -/
def sessions : StoreModel (World Unit) Unit := World.passing World.counting 5 60

theorem laws_sessions : sessions.Laws (World.sessionStore World.counting) fun _ => False :=
  World.laws_passing (World.injOn_counting (by omega)) (by decide) _

theorem valid_waiting : sessions.valid 4 waiting :=
  ⟨by decide, World.sound_of_single rfl rfl rfl, rfl, rfl, rfl, Nat.le_refl 5⟩

theorem rotates_remembering :
    remembering.Rotates sessions (World.sessionStore World.counting) where
  started := by
    refine ⟨_, rfl, fun handler hmem => ?_⟩
    obtain rfl := List.mem_singleton.1 hmem
    exact LogoutHandler.harmless_securityContext laws_sessions _
  strategy := rfl
  verifier _ hs := ⟨_, _, .pure _ _, .refl hs⟩
  rememberMe := tenMinutes.apart_service fun _ => ⟨_, .pure _ _⟩

/-- A token for a principal without authorities, until ten minutes after the epoch. -/
def aliceToken : String :=
  "eyJ0eXAiOiJKV1QiLCJhbGciOiJIUzI1NiJ9." ++
    "eyJzdWIiOiJhbGljZSIsImF1dGhvcml0aWVzIjpbXSwiZXhwIjo2MDB9." ++
    "tAbuNEMcE1f3xAyi01EeAoLcQQ1xrBtdXEeP09GTQAA"

theorem verify_aliceToken :
    Token.verify "secret" ⟨0⟩ aliceToken = .ok ⟨"alice", [], 600⟩ := by
  decide +kernel

/-- A request that brings the token and the id of the session. -/
def plantedRequest : RequestContext :=
  { sessionId := World.counting 0, requestCookies := [("remember-me", aliceToken)] }

theorem remembers_plantedRequest {w : World Unit} (hs : sessions.valid 4 w)
    (hw : sessions.session? w (World.counting 0) = some (.fresh (World.counting 0))) :
    remembering.Remembers (World.sessionStore World.counting) (World.counting 0) w
      (.scope plantedRequest) World.alice := by
  have htoken : ∃ token claims,
      plantedRequest.requestCookie? tenMinutes.cookieName = some token ∧
        Token.verify tenMinutes.secret ⟨0⟩ token = .ok claims ∧
          claims.principal = World.alice :=
    ⟨aliceToken, _, rfl, verify_aliceToken, by decide⟩
  exact (remembers_service_iff laws_sessions hs rfl (fun _ _ _ => .pure _ _) rfl _).2
    ⟨rfl, hw, htoken⟩

/-- A second passes, and a token leads into the session that was waiting. -/
theorem Course.entered_iff_planted : ∃ events s', Course sessions remembering waiting events s' ∧
    sessions.valid (2 * events.length + 2) waiting ∧
    sessions.session? waiting (World.counting 0) = some (.fresh (World.counting 0)) ∧
    ∃ e ∈ events, ∃ p, sessions.holder e.after (World.counting 0) = some p := by
  have hlapse : sessions.Lapse waiting { waiting with clock := 1000 } :=
    World.lapse 1000 () (by decide)
  obtain ⟨out, w, hrun, -⟩ := serve_yields laws_sessions rotates_remembering
    (hlapse.valid valid_waiting) (.scope plantedRequest)
  have hcourse : Course sessions remembering waiting
      [⟨{ waiting with clock := 1000 }, .scope plantedRequest, w⟩] w :=
    .lapse hlapse (.serve hrun (.nil w))
  refine ⟨_, w, hcourse, valid_waiting, rfl, ?_⟩
  exact (Course.entered_iff laws_sessions rotates_remembering hcourse valid_waiting rfl rfl).2.2
    ⟨_, List.mem_singleton.2 rfl, World.alice,
      remembers_plantedRequest (hlapse.valid valid_waiting) rfl⟩

/-- A request with a token gets its scope in a session that nobody is in, and afterwards somebody
is logged in with that session. -/
theorem waiting_entered : ∃ out w,
    sessions.session? waiting (World.counting 0) = some (.fresh (World.counting 0)) ∧
    Yields (remembering.serve (.scope plantedRequest)) waiting out w ∧
    sessions.holder w (World.counting 0) = some World.alice := by
  obtain ⟨out, w, hrun, hserved⟩ := serve_yields laws_sessions rotates_remembering valid_waiting
    (.scope plantedRequest)
  have hknown : sessions.known waiting (World.counting 0) := ⟨0, Nat.one_pos, rfl⟩
  refine ⟨out, w, rfl, hrun, (hserved.holder hknown rfl World.alice).2 ?_⟩
  exact remembers_plantedRequest valid_waiting rfl

end LoginCommand

end WebLogin
