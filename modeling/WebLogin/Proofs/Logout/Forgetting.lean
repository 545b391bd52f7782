/-
What is left in a session after a logout.

A logout runs the handler that ends the session first and takes the principal from the session
last. The handler takes the id from the request before it asks the store, so when the store
refuses, nothing is left that names the session, and the principal stays in it.

* `logout_session` — the three things that can be left under the id of the request;
* `scope_yields` — a later scope restores who is in the session of the request, if anybody;
* `GoesOn.nobody` — what other requests do puts nobody into a session that nobody is in;
* `logout_forgets_iff` — a logout forgets the principal exactly if it has not asked the store in
  vain to end a session of somebody who is logged in.
-/
import WebLogin.Proofs.Login.Turns
import WebLogin.Proofs.Store.World
import WebLogin.Proofs.Startup

namespace WebLogin

variable {σ τ ε : Type} {M : StoreModel σ τ} {store : SessionStore (StateT σ (Except ε))}
  {fails : StoreOp → Prop} {k : Nat} {s : σ}

/-! ### Logging out -/

namespace LogoutHandler

/-- A handler that always succeeds and minds neither the session nor the principal. -/
def Bystander (h : LogoutHandler (StateT σ (Except ε))) : Prop :=
  ∀ ctx p s, ∃ ctx', Yields (h.cleanup ctx p) s (ctx', .ok ()) s ∧
    ctx'.sessionId = ctx.sessionId ∧ ctx'.principal = ctx.principal

theorem bystander_cookieClearing (names : List String) :
    Bystander (cookieClearing names : LogoutHandler (StateT σ (Except ε))) := by
  intro ctx p s
  refine ⟨_, Yields.pure _ _, ?_⟩
  induction names generalizing ctx with
  | nil => exact ⟨rfl, rfl⟩
  | cons name names ih => exact ih (ctx.addResponseCookie (.removal name))

theorem bystander_rememberMe (c : RememberMeConfig) :
    Bystander (c.handler : LogoutHandler (StateT σ (Except ε))) :=
  fun _ _ _ => ⟨_, Yields.pure _ _, rfl, rfl⟩

end LogoutHandler

namespace LogoutSequence

theorem runHandlers_bystanders (p : Option Principal)
    {handlers : List (LogoutHandler (StateT σ (Except ε)))}
    (hall : ∀ h ∈ handlers, h.Bystander) (ctx : RequestContext) (s : σ) :
    ∃ ctx', Yields (runHandlers p handlers ctx) s (ctx', []) s ∧
      ctx'.sessionId = ctx.sessionId ∧ ctx'.principal = ctx.principal := by
  induction handlers generalizing ctx with
  | nil => exact ⟨ctx, Yields.pure _ _, rfl, rfl⟩
  | cons h rest ih =>
    obtain ⟨ctx₁, hrun₁, hid₁, hp₁⟩ := hall h (List.mem_cons_self ..) ctx p s
    obtain ⟨ctx', hrun, hid, hp⟩ := ih (fun h' hh => hall h' (List.mem_cons_of_mem _ hh)) ctx₁
    exact ⟨ctx', hrun₁.bind (hrun.bind (Yields.pure _ _)), hid.trans hid₁, hp.trans hp₁⟩

end LogoutSequence

/-- The store refuses to end a session. -/
def Refused (store : SessionStore (StateT σ (Except ε))) (s : σ) (id : SessionId) : Prop :=
  ∃ e s', Yields (store.invalidate id) s (.error e) s'

namespace LoginCommand

/-- A started command that keeps sessions and whose logout is the usual one, or the one that some
settings ask for. The flag says whether its logout is to end sessions. -/
inductive LogsOut (store : SessionStore (StateT σ (Except ε))) :
    Bool → LoginCommand (StateT σ (Except ε)) → Prop where
  | usual {config : LoginConfig (StateT σ (Except ε))} {c : LoginCommand (StateT σ (Except ε))}
      (mode : config.mode = .perSession) (hstore : config.store = some store)
      (handlers : config.handlers = none) (start : start.run ⟨config, none⟩ = .ok () c) :
      LogsOut store config.invalidateSession c
  | deployed {settings : Settings} {clock : StateT σ (Except ε) Timestamp}
      {verifier : Verifier (StateT σ (Except ε))} {c : LoginCommand (StateT σ (Except ε))}
      (mode : settings.login.mode = .perSession)
      (start : Deployment.command settings clock store verifier = .ok c) :
      LogsOut store settings.login.invalidateSession c

/-- The handler that ends the session comes first, and the others are no concern of it. -/
theorem LogsOut.started {ends : Bool} {c : LoginCommand (StateT σ (Except ε))}
    (hc : LogsOut store ends c) :
    ∃ rest, c.started = some ⟨.securityContext (some store) ends :: rest, .perSession store⟩ ∧
      ∀ h ∈ rest, h.Bystander := by
  cases hc with
  | @usual config _ hmode hstore hhandlers hstart =>
    rw [run_start, if_neg (by simp [isStarted]), hmode, hstore] at hstart
    cases hstart
    refine ⟨[], ?_, by simp⟩
    simp only [handlersOf, hhandlers, hmode, hstore, Mode.isPerClient, Option.getD_none,
      Bool.not_false, Bool.and_true]
  | @deployed settings _ _ _ hmode hstart =>
    rw [Deployment.command_eq hmode] at hstart
    cases hstart
    refine ⟨(Deployment.logoutHandlers settings store).tail, ?_, ?_⟩
    · simp only [Deployment.logoutHandlers, hmode, Mode.isPerClient, Bool.not_false,
        Bool.and_true, List.cons_append, List.tail_cons]
    · intro h hh
      rw [Deployment.logoutHandlers, List.append_assoc, List.singleton_append, List.tail_cons,
        List.mem_append] at hh
      rcases hh with hh | hh
      · split at hh
        · rw [List.mem_singleton.1 hh]
          exact LogoutHandler.bystander_rememberMe _
        · exact absurd hh List.not_mem_nil
      · split at hh
        · exact absurd hh List.not_mem_nil
        · rw [List.mem_singleton.1 hh]
          exact LogoutHandler.bystander_cookieClearing _

/-- Once the first handler has run, a logout only takes the principal from what the request still
names. -/
theorem logout_yields (h : M.Laws store fails) (hget : ¬fails .get) (hsave : ¬fails .save)
    {ends : Bool} {c : LoginCommand (StateT σ (Except ε))} (hc : LogsOut store ends c)
    {ctx ctx₁ : RequestContext} {given : Option Principal} {r : Except HandlerError Unit} {s₁ : σ}
    (hfirst : Yields ((LogoutHandler.securityContext (some store) ends).cleanup ctx
      (given <|> ctx.principal)) s (ctx₁, r) s₁) (hs₁ : M.valid k s₁) :
    ∃ ctx' s', Yields (c.logout ctx given) s (ctx', LogoutSequence.resultOf
        (LogoutSequence.failureOf "security-context" r)) s' ∧ M.valid k s' ∧
      M.view s' = SessionBinder.unboundView M s₁ ctx₁.sessionId := by
  obtain ⟨rest, hstarted, hrest⟩ := hc.started
  obtain ⟨ctx₂, hrun₂, hid₂, -⟩ :=
    LogoutSequence.runHandlers_bystanders (given <|> ctx.principal) hrest ctx₁ s₁
  have hhandlers : Yields (LogoutSequence.runHandlers (given <|> ctx.principal)
      (.securityContext (some store) ends :: rest) ctx) s
      (ctx₂, LogoutSequence.failureOf "security-context" r ++ []) s₁ :=
    hfirst.bind (hrun₂.bind (Yields.pure _ _))
  rw [List.append_nil] at hhandlers
  obtain ⟨s', hrun, hvalid, -, hview⟩ :=
    logout_of_handlers h hget hsave hstarted hhandlers hs₁
  exact ⟨ctx₂.unbindPrincipal, s', hrun, hvalid, hid₂ ▸ hview⟩

/-- Three things can be left under the id of a request that logs out: the session without its
principal, nothing, or the session as it was. -/
theorem logout_session (h : M.Laws store fails) (hget : ¬fails .get) (hsave : ¬fails .save)
    (hs : M.valid k s) {ends : Bool} {c : LoginCommand (StateT σ (Except ε))}
    (hc : LogsOut store ends c) {ctx : RequestContext} {id : SessionId} {x : Session}
    (hid : ctx.sessionId = some id) (hx : M.session? s id = some x) (given : Option Principal) :
    ∃ ctx' result s', Yields (c.logout ctx given) s (ctx', result) s' ∧ M.valid k s' ∧
      (ends = false ∧ result = .ok () ∧ M.session? s' id = some { x with principal := none } ∨
        ends = true ∧ ¬Refused store s id ∧ result = .ok () ∧ M.session? s' id = none ∨
        ends = true ∧ Refused store s id ∧ (∃ failures, result = .error (.handlers failures)) ∧
          M.session? s' id = some x) := by
  cases ends with
  | false =>
    obtain ⟨ctx', s', hrun, hvalid, hview⟩ :=
      logout_yields h hget hsave hc (Yields.pure _ _) hs
    refine ⟨ctx', _, s', hrun, hvalid, .inl ⟨rfl, rfl, ?_⟩⟩
    obtain ⟨e, he, rfl⟩ := Option.map_eq_some_iff.1 hx
    rw [StoreModel.session?, hview, hid, SessionBinder.unboundView, Function.update_self, he,
      SessionBinder.unboundEntry, Option.map_some, Option.map_some]
    split
    · rfl
    · rename_i hnone
      rw [Bool.not_eq_true, Option.isSome_eq_false_iff, Option.isNone_iff_eq_none] at hnone
      rw [← hnone]
  | true =>
    have hcleanup : ∀ r s₁, Yields (store.invalidate id) s r s₁ →
        Yields ((LogoutHandler.securityContext (some store) true).cleanup ctx
          (given <|> ctx.principal)) s (ctx.withSession none, r.mapError .store) s₁ := by
      intro r s₁ hr
      simp only [LogoutHandler.securityContext, hid]
      exact hr.bind (Yields.pure _ _)
    -- Either way the request has lost its id, so unbinding touches no session.
    rcases h.invalidate id hs with ⟨s₁, hr, hw⟩ | ⟨-, e, s₁, hr, hsame⟩
    · obtain ⟨ctx', s', hrun, hvalid, hview⟩ :=
        logout_yields h hget hsave hc (hcleanup _ _ hr) hw.valid
      refine ⟨ctx', _, s', hrun, hvalid, .inr (.inl ⟨rfl, ?_, rfl, ?_⟩)⟩
      · rintro ⟨e, s₂, he⟩
        exact absurd (hr.eq he).1 (by simp)
      · rw [StoreModel.session?, hview, SessionBinder.unboundView.eq_def]
        simp only [RequestContext.withSession]
        rw [hw.view, Function.update_self, Option.map_none]
    · obtain ⟨ctx', s', hrun, hvalid, hview⟩ :=
        logout_yields h hget hsave hc (hcleanup _ _ hr) hsame.valid
      refine ⟨ctx', _, s', hrun, hvalid, .inr (.inr ⟨rfl, ⟨e, s₁, hr⟩, ⟨_, rfl⟩, ?_⟩)⟩
      rw [StoreModel.session?, hview, SessionBinder.unboundView.eq_def]
      simp only [RequestContext.withSession]
      rw [hsame.view]
      exact hx

end LoginCommand

/-! ### Scopes after the logout -/

/-- Nobody is remembered by what a request brings beside its session. -/
def RememberMe.Unremembered (rm : RememberMe (StateT σ (Except ε))) (req : RequestContext) : Prop :=
  ∀ ctx s, ctx.requestCookies = req.requestCookies → ctx.principal = none →
    ∃ ctx', Yields (rm.autoLogin ctx) s (ctx', none) s ∧ ctx'.principal = none

theorem RememberMe.unremembered_null (req : RequestContext) :
    (RememberMe.null : RememberMe (StateT σ (Except ε))).Unremembered req :=
  fun ctx _ _ hp => ⟨ctx, Yields.pure _ _, hp⟩

/-- A request without the cookie of remember-me is not remembered. -/
theorem RememberMeConfig.unremembered_service (rc : RememberMeConfig)
    {clock : StateT σ (Except ε) Timestamp} (hclock : ∀ s, ∃ t, Yields clock s t s)
    {req : RequestContext} (hreq : req.requestCookie? rc.cookieName = none) :
    (rc.service clock).Unremembered req := by
  intro ctx s hcookies hp
  obtain ⟨t, ht⟩ := hclock s
  have hauto : rc.autoLogin t ctx = (ctx, none) := by
    rw [RequestContext.requestCookie?, ← hcookies] at hreq
    rw [RememberMeConfig.autoLogin, RequestContext.requestCookie?, hreq]
  refine ⟨ctx, ht.bind ?_, hp⟩
  rw [hauto]
  exact Yields.pure _ _

namespace LoginCommand

theorem LogsOut.binder {ends : Bool} {c : LoginCommand (StateT σ (Except ε))}
    (hc : LogsOut store ends c) : ∃ handlers, c.started = some ⟨handlers, .perSession store⟩ := by
  obtain ⟨handlers, hstarted, -⟩ := hc.started
  exact ⟨_, hstarted⟩

/-- A request gets the principal of its session, and its scope changes nothing. If there is none,
that holds as long as the request is not remembered. -/
theorem scope_yields (h : M.Laws store fails) (hget : ¬fails .get) (hs : M.valid k s)
    {c : LoginCommand (StateT σ (Except ε))} {handlers : List (LogoutHandler (StateT σ (Except ε)))}
    (hc : c.started = some ⟨handlers, .perSession store⟩) {req : RequestContext}
    (hreq : req.sessionId.bind (M.holder s) = none → c.config.rememberMe.Unremembered req)
    (hp : req.principal = none) :
    ∃ req' s', Yields (c.scope req) s (req', .ok ()) s' ∧ M.Same k s s' ∧
      req'.principal = req.sessionId.bind (M.holder s) := by
  obtain ⟨s', hrun, hsame⟩ := SessionBinder.restore_yields h hget hs req
  rw [SessionBinder.restored_eq hp] at hrun
  -- Whoever stands in the session is taken over; otherwise remember-me is asked, in vain.
  generalize hctx : RequestContext.mk _ _ _ _ = ctx at hrun
  have hcookies : ctx.requestCookies = req.requestCookies := by rw [← hctx]
  rw [show req.sessionId.bind (M.holder s) = ctx.principal by rw [← hctx]] at hreq ⊢
  cases hprincipal : ctx.principal with
  | some p =>
    exact ⟨ctx, s', scope_of_isSome hc hrun (Option.isSome_of_eq_some hprincipal), hsame,
      hprincipal⟩
  | none =>
    obtain ⟨ctx', hauto, hnone⟩ := hreq hprincipal ctx s' hcookies hprincipal
    exact ⟨ctx', s', scope_of_none hc hrun hprincipal hauto, hsame, hnone⟩

/-- How things go on after a logout: requests that are not remembered get scopes, and anything may
happen that does not log somebody in with the session. -/
inductive GoesOn (c : LoginCommand (StateT σ (Except ε))) (M : StoreModel σ τ) (id : SessionId)
    (s : σ) : σ → Prop where
  | here : GoesOn c M id s s
  | scope {s₁ s₂ : σ} {req req' : RequestContext} {result : Except ScopeError Unit} :
      GoesOn c M id s s₁ → c.config.rememberMe.Unremembered req → req.principal = none →
      Yields (c.scope req) s₁ (req', result) s₂ → GoesOn c M id s s₂
  | elsewhere {s₁ s₂ : σ} : GoesOn c M id s s₁ → (M.valid 0 s₁ → M.valid 0 s₂) →
      (M.holder s₂ id = none ∨ M.holder s₂ id = M.holder s₁ id) → GoesOn c M id s s₂

/-- Nobody comes back into a session by scopes alone. -/
theorem GoesOn.nobody (h : M.Laws store fails) (hget : ¬fails .get) (hs : M.valid 0 s)
    {c : LoginCommand (StateT σ (Except ε))} {handlers : List (LogoutHandler (StateT σ (Except ε)))}
    (hc : c.started = some ⟨handlers, .perSession store⟩) {id : SessionId} {s' : σ}
    (hgo : GoesOn c M id s s') (hnone : M.holder s id = none) :
    M.valid 0 s' ∧ M.holder s' id = none := by
  -- Along what happens: a scope leaves every session as it is.
  induction hgo with
  | here => exact ⟨hs, hnone⟩
  | scope _ hreq hp hrun ih =>
    obtain ⟨req', s', hrun', hsame, -⟩ := scope_yields h hget ih.1 hc (fun _ => hreq) hp
    obtain ⟨-, rfl⟩ := hrun.eq hrun'
    refine ⟨hsame.valid, ?_⟩
    rw [hsame.holder]
    exact ih.2
  | elsewhere _ hvalid hkeep ih =>
    exact ⟨hvalid ih.1, hkeep.elim (fun hk => hk) fun hk => hk.trans ih.2⟩

theorem valid_zero (h : M.Laws store fails) (hs : M.valid k s) : M.valid 0 s := by
  induction k with
  | zero => exact hs
  | succ k ih => exact ih (h.weaken hs)

/-- A logout over a store that may refuse to end sessions returns, and it reports a failure
exactly if it was to end the session and the store refused. From then on the id restores nobody,
unless the store refused and somebody was logged in: they are restored as if there had been no
logout. -/
theorem logout_forgets_iff (h : M.Laws store (· = .invalidate)) (hs : M.valid k s) {ends : Bool}
    {c : LoginCommand (StateT σ (Except ε))} (hc : LogsOut store ends c) {ctx : RequestContext}
    {id : SessionId} {x : Session} (hid : ctx.sessionId = some id)
    (hx : M.session? s id = some x) (given : Option Principal) :
    ∃ ctx' result s', Yields (c.logout ctx given) s (ctx', result) s' ∧
      (result ≠ .ok () ↔ ends = true ∧ Refused store s id) ∧
      (¬(ends = true ∧ Refused store s id ∧ x.principal.isSome) →
        ∀ s₁ req, GoesOn c M id s' s₁ → c.config.rememberMe.Unremembered req →
          req.sessionId = some id → req.principal = none →
            ∃ req' s₂, Yields (c.scope req) s₁ (req', .ok ()) s₂ ∧ req'.principal = none) ∧
      (ends = true ∧ Refused store s id ∧ x.principal.isSome →
        ∀ req, req.sessionId = some id → req.principal = none →
          ∃ req' s₁, Yields (c.scope req) s' (req', .ok ()) s₁ ∧
            req'.principal = x.principal) := by
  have hget : StoreOp.get ≠ .invalidate := by decide
  have hsave : StoreOp.save ≠ .invalidate := by decide
  obtain ⟨handlers, hstarted⟩ := hc.binder
  obtain ⟨ctx', result, s', hrun, hvalid, hleft⟩ :=
    logout_session h hget hsave hs hc hid hx given
  have hvalid := valid_zero h hvalid
  -- What a scope restores is what stands in the session, and that was left by the logout.
  have hforgets (hnone : M.holder s' id = none) (s₁ : σ) (req : RequestContext)
      (hgo : GoesOn c M id s' s₁) (hreq : c.config.rememberMe.Unremembered req)
      (hreqid : req.sessionId = some id) (hp : req.principal = none) :
      ∃ req' s₂, Yields (c.scope req) s₁ (req', .ok ()) s₂ ∧ req'.principal = none := by
    obtain ⟨hv, hnobody⟩ := hgo.nobody h hget hvalid hstarted hnone
    obtain ⟨req', s₂, hscope, -, hprincipal⟩ :=
      scope_yields h hget hv hstarted (fun _ => hreq) hp
    rw [hreqid, Option.bind_some, hnobody] at hprincipal
    exact ⟨req', s₂, hscope, hprincipal⟩
  refine ⟨ctx', result, s', hrun, ?_⟩
  rcases hleft with ⟨rfl, rfl, hsession⟩ | ⟨rfl, hok, rfl, hsession⟩ |
    ⟨rfl, hrefused, ⟨failures, rfl⟩, hsession⟩
  · refine ⟨by simp, fun _ => hforgets ?_, by simp⟩
    rw [StoreModel.holder, hsession, Option.bind_some]
  · refine ⟨by simp [hok], fun _ => hforgets ?_, fun hbad => absurd hbad.2.1 hok⟩
    rw [StoreModel.holder, hsession, Option.bind_none]
  · have hholder : M.holder s' id = x.principal := by
      rw [StoreModel.holder, hsession, Option.bind_some]
    refine ⟨by simp [hrefused], fun hgood => hforgets ?_, fun hbad req hreqid hp => ?_⟩
    · rw [hholder, ← Option.not_isSome_iff_eq_none]
      exact fun hsome => hgood ⟨rfl, hrefused, hsome⟩
    · have hsome : req.sessionId.bind (M.holder s') = x.principal := by
        rw [hreqid, Option.bind_some, hholder]
      obtain ⟨req', s₁, hscope, -, hprincipal⟩ := scope_yields h hget hvalid hstarted
        (fun hnone => absurd hbad.2.2 (by simp [← hsome, hnone])) hp
      rw [hsome] at hprincipal
      exact ⟨req', s₁, hscope, hprincipal⟩

end LoginCommand

/-! ### A store that refuses -/

/-- A store that cannot end sessions. -/
def SessionStore.refusing {m : Type → Type} [Monad m] (store : SessionStore m) (e : StoreError) :
    SessionStore m :=
  { store with invalidate := fun _ => return .error e }

theorem StoreModel.Laws.refusing (h : M.Laws store (· = .invalidate)) (e : StoreError) :
    M.Laws (store.refusing e) (· = .invalidate) :=
  { h with invalidate := fun {_ s} _ hs => .inr ⟨rfl, e, s, Yields.pure _ _, .refl hs⟩ }

namespace LoginCommand

/-- A store in memory that cannot end sessions. -/
def stubbornStore : SessionStore (World.Run Unit) :=
  (World.sessionStore World.counting).refusing (.unexpected "connection lost")

/-- The usual configuration over that store. -/
def stubbornConfig : LoginConfig (World.Run Unit) where
  verifier := ⟨fun _ => return .error .unknownIdentity⟩
  store := stubbornStore
  strategy := .null
  rememberMe := .null
  handlers := none
  mode := .perSession
  invalidateSession := true

/-- The started command of that configuration. -/
def stubborn : LoginCommand (World.Run Unit) :=
  ⟨stubbornConfig, some ⟨handlersOf stubbornConfig, .perSession stubbornStore⟩⟩

theorem logsOut_stubborn : LogsOut stubbornStore stubbornConfig.invalidateSession stubborn :=
  .usual rfl rfl rfl rfl

theorem laws_stubborn :
    (World.model World.counting 1 60 0 ()).Laws stubbornStore (· = .invalidate) :=
  (World.laws (World.injOn_counting (by omega)) (by decide) (by decide) _).refusing _

/-- The request of the browser that holds the first session. -/
def firstRequest : RequestContext := { sessionId := World.counting 0 }

/-- A logout during which the store cannot end sessions. -/
theorem logout_forgets_iff_stubborn :
    ∃ ctx' result s', Yields (stubborn.logout firstRequest none) (World.holding World.alice)
      (ctx', result) s' ∧ result ≠ .ok () := by
  have hid : firstRequest.sessionId = some (World.counting 0) := rfl
  have hx : (World.model World.counting 1 60 0 ()).session? (World.holding World.alice)
      (World.counting 0) = some ⟨World.counting 0, some World.alice⟩ := rfl
  obtain ⟨ctx', result, s', hrun, hresult, -⟩ := logout_forgets_iff laws_stubborn
    (World.valid_holding World.alice) logsOut_stubborn hid hx none
  exact ⟨ctx', result, s', hrun, hresult.2 ⟨rfl, _, _, rfl⟩⟩

/-- A logout during which the store cannot end sessions reports that, and the next request with
the old id is logged in again. -/
theorem stubborn_restores :
    ∃ ctx' failures s' req' s'',
      Yields (stubborn.logout firstRequest none) (World.holding World.alice)
        (ctx', .error (.handlers failures)) s' ∧
      Yields (stubborn.scope firstRequest) s' (req', .ok ()) s'' ∧
      req'.principal = some World.alice :=
  ⟨_, _, _, _, _, rfl, rfl, rfl⟩

end LoginCommand

end WebLogin
