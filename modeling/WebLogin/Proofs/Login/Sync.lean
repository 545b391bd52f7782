/-
The principal of a request and the one in its session are the same.

Both are written by different hands: a scope takes the principal from the session, a login writes it
to the session first and may move it to another one, a refusal takes it back from both, and the
handlers of a logout take the session away before the principal is taken from what is left. Between
any two operations of a visit they agree all the same.

* `LoginCommand.scope_inSync`, `login_inSync`, `logout_inSync` — each operation brings the two
  together;
* `LoginCommand.scope_of_holder` — a session gives back whoever is in it, and nobody else is asked;
* `LoginCommand.visit_inSync` — a scope and then any operations, each with a command of its own;
* `Deployment.keepsSessions` — the command of a service is one of those that this is about.
-/
import WebLogin.Proofs.Login.Collaborators
import WebLogin.Proofs.Startup
import WebLogin.Proofs.Store.World

namespace WebLogin

variable {σ τ ε : Type} {M : StoreModel σ τ} {store : SessionStore (StateT σ (Except ε))}
  {k : Nat} {s s' : σ} {ctx ctx' : RequestContext} {id : SessionId} {p : Principal}

namespace RequestContext

/-- The principal of a request is the one in its session: nobody, if it has no session, or one that
the store does not know or that nobody is in. -/
def InSync (M : StoreModel σ τ) (s : σ) (ctx : RequestContext) : Prop :=
  ctx.principal = ctx.sessionId.bind (M.holder s)

theorem InSync.same (h : ctx.InSync M s) (hsame : M.Same k s s') (hctx : ctx.SameLogin ctx') :
    ctx'.InSync M s' := by
  rw [InSync, hctx.principal, hctx.sessionId, hsame.holder]
  exact h

theorem inSync_of_holder (hid : ctx.sessionId = some id) (hp : ctx.principal = some p)
    (hholder : M.holder s id = some p) : ctx.InSync M s := by
  rw [InSync, hid, Option.bind_some, hp, hholder]

end RequestContext

namespace SessionBinder

/-- Nobody is left in the session that a principal was taken from. -/
theorem holder_unboundView {old : Option SessionId} (hview : M.view s' = unboundView M s old) :
    old.bind (M.holder s') = none := by
  cases old with
  | none => rfl
  | some id =>
    rw [Option.bind_some, StoreModel.holder_of_view (congrFun hview id), unboundView,
      Function.update_self, unboundEntry]
    cases M.view s id with
    | none => rfl
    | some e =>
      rw [Option.map_some, Option.bind_some]
      split
      · rfl
      · rename_i hnobody
        exact Option.not_isSome_iff_eq_none.1 hnobody

theorem inSync_unbindPrincipal (hview : M.view s' = unboundView M s ctx.sessionId) :
    ctx.unbindPrincipal.InSync M s' := (holder_unboundView hview).symm

theorem Bound.holder {old : Option SessionId} (h : Bound M k s old p id s') :
    M.holder s' id = some p := by
  rw [StoreModel.holder_of_view (congrFun h.view id), Function.update_self]
  rfl

/-- A request that comes without a principal and takes over that of its session is in step with
it. -/
theorem inSync_restored (hp : ctx.principal = none) :
    (restored (M.session? s) ctx).InSync M s := by
  rw [restored_eq hp, RequestContext.InSync]
  cases ctx.sessionId with
  | none => rfl
  | some id =>
    rw [Option.filter_some]
    split
    · rfl
    · rename_i hnone
      rw [Option.not_isSome_iff_eq_none] at hnone
      rw [Option.bind_none, Option.bind_some, StoreModel.holder, hnone, Option.bind_none]

end SessionBinder

/-! ### One operation -/

namespace Authentication

variable {a : Authentication (StateT σ (Except ε))}

/-- A login that was not refused has put its principal into the session of the request. -/
structure Settled (M : StoreModel σ τ) (k : Nat) (p : Principal) (ctx : RequestContext) (s : σ) :
    Prop where
  valid : M.valid k s
  principal : ctx.principal = some p
  session : ∃ id, ctx.sessionId = some id ∧ M.holder s id = some p

theorem Settled.inSync (h : Settled M k p ctx s) : ctx.InSync M s := by
  obtain ⟨id, hid, hholder⟩ := h.session
  exact RequestContext.inSync_of_holder hid h.principal hholder

theorem Settled.same (h : Settled M k p ctx s) (hsame : M.Same k s s')
    (hctx : ctx.SameLogin ctx') : Settled M k p ctx' s' where
  valid := hsame.valid
  principal := hctx.principal.trans h.principal
  session := by
    rw [hctx.sessionId, hsame.holder]
    exact h.session

/-- The strategy has moved the request, or let it be, or refused the login. In the last case the
principal is bound when the strategy says so. -/
theorem bind_settles (h : M.Laws store fun _ => False) (hs : M.valid (k + 2) s)
    (hbinder : a.binder = .perSession store)
    (hstrategy : a.strategy = .changeId store ∨ a.strategy.Aside M) (ctx : RequestContext)
    (p : Principal) :
    ∃ ctx' r s', Yields (a.bind ctx p) s (ctx', r) s' ∧ M.valid k s' ∧
      (r = .ok () → Settled M k p ctx' s') := by
  rcases hstrategy with hmoves | haside
  · obtain ⟨new, s', hbind, hmoved⟩ := bind_moves h hs hbinder hmoves ctx p
    refine ⟨(ctx.bindPrincipal p).withSession (some new), _, s', hbind, hmoved.valid,
      fun _ => ⟨hmoved.valid, rfl, new, rfl, ?_⟩⟩
    rw [StoreModel.holder_of_view hmoved.entry]
    rfl
  · obtain ⟨id, s₁, hbind, hbound⟩ :=
      SessionBinder.bind_yields (k := k) h not_false not_false not_false (h.weaken hs) ctx p
    obtain ⟨r, s', hasked, hsame⟩ :=
      haside ((ctx.withSession (some id)).bindPrincipal p) p hbound.valid
    refine ⟨(ctx.withSession (some id)).bindPrincipal p, r.mapError fun e => ⟨.other, e.message⟩,
      s', ?_, hsame.valid, fun _ => ⟨hsame.valid, rfl, id, rfl, ?_⟩⟩
    · simp only [Authentication.bind, hbinder]
      exact hbind.bind (hasked.bind (.pure _ _))
    · rw [hsame.holder]
      exact hbound.holder

/-- Logging in a principal that was verified: it is settled, or the login fails and nobody is left
in the session. -/
theorem complete_settles (h : M.Laws store fun _ => False) (hs : M.valid (k + 2) s)
    (hbinder : a.binder = .perSession store)
    (hstrategy : a.strategy = .changeId store ∨ a.strategy.Aside M)
    (hrm : a.rememberMe.Reserved M) (ctx : RequestContext) (p : Principal) :
    ∃ ctx' r s', Yields (a.complete ctx p) s (ctx', r) s' ∧ M.valid k s' ∧ ctx'.InSync M s' ∧
      ∀ q, r = .ok q → q = p ∧ Settled M k p ctx' s' := by
  obtain ⟨ctx₁, r, s₁, hbind, hvalid, hsettled⟩ := bind_settles h hs hbinder hstrategy ctx p
  rw [complete]
  cases r with
  | ok u =>
    obtain ⟨ctx', s', hsuccess, hsame, hctx⟩ := hrm.loginSuccess ctx₁ p hvalid
    have hdone : Settled M k p ctx' s' := (hsettled rfl).same hsame hctx
    exact ⟨ctx', _, s', hbind.bind (hsuccess.bind (.pure _ _)), hdone.valid, hdone.inSync,
      fun q hq => ⟨(Except.ok.inj hq).symm, hdone⟩⟩
  | error f =>
    -- The principal is taken back from both, and remembering does not bring it back.
    obtain ⟨s₂, hunbind, hvalid₂, -, hview⟩ :=
      SessionBinder.unbind_yields h not_false not_false hvalid ctx₁
    obtain ⟨ctx', s', hfail, hsame, hctx⟩ := fail_reserved hrm hvalid₂ ctx₁.unbindPrincipal f
    refine ⟨ctx', .error f, s', hbind.bind ?_, hsame.valid,
      (SessionBinder.inSync_unbindPrincipal hview).same hsame hctx, fun q hq => absurd hq (by simp)⟩
    rw [hbinder]
    exact hunbind.bind hfail

/-- A login that succeeded has verified its principal and settled it. -/
theorem run_settles (h : M.Laws store fun _ => False) (hs : M.valid (k + 2) s)
    (hverifier : a.verifier.Apart M) (hbinder : a.binder = .perSession store)
    (hstrategy : a.strategy = .changeId store ∨ a.strategy.Aside M)
    (hrm : a.rememberMe.Reserved M) (hsync : ctx.InSync M s) (username password : String) :
    ∃ ctx' r s', Yields (a.run ctx username password) s (ctx', r) s' ∧ M.valid k s' ∧
      ctx'.InSync M s' ∧ ∀ q, r = .ok q → Settled M k q ctx' s' ∧
        ∃ credential identity s₁, Credential.parse username password = .ok credential ∧
          Yields (a.verifier.verify credential) s (.ok identity) s₁ ∧
          q = ⟨identity.name, identity.authorities⟩ := by
  -- Before the verifier has accepted the credential, nothing is touched.
  have hfails {s₁ : σ} (hs₁ : M.Same (k + 2) s s₁) (f : LoginFailure) :
      ∃ ctx' s', Yields (a.fail ctx f) s₁ (ctx', .error f) s' ∧ M.valid k s' ∧
        ctx'.InSync M s' := by
    obtain ⟨ctx', s', hfail, hsame, hctx⟩ :=
      fail_reserved hrm (h.weaken (h.weaken hs₁.valid)) ctx f
    exact ⟨ctx', s', hfail, hsame.valid, (hsync.same hs₁ (.refl ctx)).same hsame hctx⟩
  rw [run]
  cases Credential.parse username password with
  | error e =>
    obtain ⟨ctx', s', hfail, hvalid, hsync'⟩ := hfails (.refl hs) (.ofUsernameError e)
    exact ⟨ctx', .error (.ofUsernameError e), s', hfail, hvalid, hsync',
      fun q hq => absurd hq (by simp)⟩
  | ok credential =>
    obtain ⟨r, s₁, hverify, hsame⟩ := hverifier credential hs
    cases r with
    | error e =>
      obtain ⟨ctx', s', hfail, hvalid, hsync'⟩ := hfails hsame (.ofVerificationError e)
      exact ⟨ctx', .error (.ofVerificationError e), s', hverify.bind hfail, hvalid, hsync',
        fun q hq => absurd hq (by simp)⟩
    | ok identity =>
      obtain ⟨ctx', r, s', hcomplete, hvalid, hsync', hsettled⟩ :=
        complete_settles h hsame.valid hbinder hstrategy hrm ctx (.ofIdentity identity)
      refine ⟨ctx', r, s', hverify.bind hcomplete, hvalid, hsync', ?_⟩
      intro q hq
      obtain ⟨rfl, hdone⟩ := hsettled q hq
      exact ⟨hdone, credential, identity, s₁, rfl, hverify, rfl⟩

end Authentication

namespace LoginCommand

variable {c : LoginCommand (StateT σ (Except ε))}

/-- A started command that keeps logins in sessions. Whoever else takes part in a login keeps to
themselves, and the handlers of a logout put nobody into a session. -/
structure KeepsSessions (M : StoreModel σ τ) (store : SessionStore (StateT σ (Except ε)))
    (c : LoginCommand (StateT σ (Except ε))) : Prop where
  started : ∃ handlers, c.started = some ⟨handlers, .perSession store⟩ ∧
    ∀ handler ∈ handlers, handler.Harmless M
  strategy : c.config.strategy = .changeId store ∨ c.config.strategy.Aside M
  verifier : c.config.verifier.Apart M
  rememberMe : c.config.rememberMe.Reserved M

theorem scope_inSync (h : M.Laws store fun _ => False) (hc : c.KeepsSessions M store)
    (hs : M.valid (k + 1) s) (hp : ctx.principal = none) :
    ∃ ctx' s', Yields (c.scope ctx) s (ctx', .ok ()) s' ∧ M.valid k s' ∧ ctx'.InSync M s' := by
  obtain ⟨handlers, hstarted, -⟩ := hc.started
  obtain ⟨s₁, hrestore, hsame⟩ := SessionBinder.restore_yields h not_false hs ctx
  have hsync : (SessionBinder.restored (M.session? s) ctx).InSync M s₁ :=
    (SessionBinder.inSync_restored hp).same hsame (.refl _)
  generalize SessionBinder.restored (M.session? s) ctx = ctx₁ at hrestore hsync
  cases hprincipal : ctx₁.principal with
  | some p =>
    exact ⟨ctx₁, s₁, scope_of_isSome hstarted hrestore (Option.isSome_of_eq_some hprincipal),
      h.weaken hsame.valid, hsync⟩
  | none =>
    obtain ⟨ctx₂, remembered, s₂, hauto, hsame₂, hctx⟩ := hc.rememberMe.autoLogin ctx₁ hsame.valid
    cases remembered with
    | none =>
      exact ⟨ctx₂, s₂, scope_of_none hstarted hrestore hprincipal hauto, h.weaken hsame₂.valid,
        hsync.same hsame₂ hctx⟩
    | some q =>
      obtain ⟨id, s', hbind, hbound⟩ :=
        SessionBinder.bind_yields h not_false not_false not_false hsame₂.valid ctx₂ q
      exact ⟨_, s', scope_of_some hstarted hrestore hprincipal hauto hbind, hbound.valid,
        RequestContext.inSync_of_holder rfl rfl hbound.holder⟩

theorem login_inSync (h : M.Laws store fun _ => False) (hc : c.KeepsSessions M store)
    (hs : M.valid (k + 2) s) (hsync : ctx.InSync M s) (username password : String) :
    ∃ ctx' r s', Yields (c.login ctx username password) s (ctx', r) s' ∧ M.valid k s' ∧
      ctx'.InSync M s' ∧ ∀ q, r = .ok q → Authentication.Settled M k q ctx' s' ∧
        ∃ credential identity s₁, Credential.parse username password = .ok credential ∧
          Yields (c.config.verifier.verify credential) s (.ok identity) s₁ ∧
          q = ⟨identity.name, identity.authorities⟩ := by
  obtain ⟨handlers, hstarted, -⟩ := hc.started
  obtain ⟨ctx', r, s', hrun, hvalid, hsync', hsettled⟩ := Authentication.run_settles
    (a := c.authentication ⟨handlers, .perSession store⟩) h hs hc.verifier rfl hc.strategy
    hc.rememberMe hsync username password
  refine ⟨ctx', r.mapError .failed, s', ?_, hvalid, hsync', fun q hq => ?_⟩
  · simp only [login, hstarted]
    exact hrun.bind (.pure _ _)
  · cases r with
    | error f => exact absurd hq (by simp [Except.mapError])
    | ok p =>
      obtain rfl : p = q := Except.ok.inj hq
      exact hsettled p rfl

/-- Whatever its handlers have done, a logout leaves nobody bound to the request and nobody in the
session that the request still names. -/
theorem logout_inSync (h : M.Laws store fun _ => False) (hc : c.KeepsSessions M store)
    (hs : M.valid k s) (ctx : RequestContext) (given : Option Principal) :
    ∃ ctx' r s', Yields (c.logout ctx given) s (ctx', r) s' ∧ M.valid k s' ∧ ctx'.InSync M s' := by
  obtain ⟨handlers, hstarted, hharmless⟩ := hc.started
  obtain ⟨ctx₁, failures, s₁, hhandlers, hguarded⟩ :=
    LogoutSequence.runHandlers_guarded (given <|> ctx.principal) hharmless ctx hs
  obtain ⟨s', hrun, hvalid, -, hview⟩ :=
    logout_of_handlers h not_false not_false hstarted hhandlers hguarded.valid
  exact ⟨_, _, s', hrun, hvalid, SessionBinder.inSync_unbindPrincipal hview⟩

/-- A request that comes with the session of somebody gets them as its principal. Those who
remember logins are not asked, whoever they are. -/
theorem scope_of_holder (h : M.Laws store fun _ => False) (hs : M.valid k s)
    {handlers : List (LogoutHandler (StateT σ (Except ε)))}
    (hstarted : c.started = some ⟨handlers, .perSession store⟩) (hid : ctx.sessionId = some id)
    (hholder : M.holder s id = some p) :
    ∃ s', Yields (c.scope ctx) s (ctx.bindPrincipal p, .ok ()) s' ∧ M.Same k s s' := by
  obtain ⟨s', hrestore, hsame⟩ := SessionBinder.restore_yields h not_false hs ctx
  obtain ⟨x, hx, hxp⟩ := Option.bind_eq_some_iff.1 hholder
  have hctx : SessionBinder.restored (M.session? s) ctx = ctx.bindPrincipal p := by
    simp only [SessionBinder.restored, hid, hx, hxp, Option.elim_some]
  rw [hctx] at hrestore
  exact ⟨s', scope_of_isSome hstarted hrestore rfl, hsame⟩

end LoginCommand

/-! ### A whole visit -/

/-- What is done in a visit after it has got its scope. -/
inductive VisitStep where
  | login (username password : String)
  | logout (principal : Option Principal)

def VisitStep.request (ctx : RequestContext) : VisitStep → LoginRequest
  | login username password => .login ctx username password
  | logout principal => .logout ctx principal

def LoginOutcome.context : LoginOutcome → RequestContext
  | scope step => step.1
  | login step => step.1
  | logout step => step.1

/-- An operation of a visit: by which command, on which context, and what came of it. -/
structure VisitEvent (σ ε : Type) where
  command : LoginCommand (StateT σ (Except ε))
  step : VisitStep
  context : RequestContext
  before : σ
  outcome : LoginOutcome
  after : σ

namespace VisitEvent

/-- Operations one after the other, each on the context that the one before it left. -/
inductive Visit : RequestContext → σ → List (VisitEvent σ ε) → Prop where
  | nil (ctx : RequestContext) (s : σ) : Visit ctx s []
  | cons {e : VisitEvent σ ε} {events : List (VisitEvent σ ε)} :
      Yields (e.command.serve (e.step.request e.context)) e.before e.outcome e.after →
      Visit e.outcome.context e.after events → Visit e.context e.before (e :: events)

/-- The operation was a login that succeeded. Its principal is the identity that the verifier found
for the credential; it is bound to the request; and as long as it is in the session of the request,
that session gives it back, whatever command is asked. -/
structure LoggedIn (M : StoreModel σ τ) (store : SessionStore (StateT σ (Except ε)))
    (e : VisitEvent σ ε) (p : Principal) : Prop where
  verified : ∃ username password credential identity s₁, e.step = .login username password ∧
    Credential.parse username password = .ok credential ∧
    Yields (e.command.config.verifier.verify credential) e.before (.ok identity) s₁ ∧
    p = ⟨identity.name, identity.authorities⟩
  bound : e.outcome.context.principal = some p
  restored : ∃ id, e.outcome.context.sessionId = some id ∧ M.holder e.after id = some p ∧
    ∀ {k : Nat} {s : σ} {c : LoginCommand (StateT σ (Except ε))} {handlers} {req : RequestContext},
      M.valid k s → M.holder s id = some p → c.started = some ⟨handlers, .perSession store⟩ →
      req.sessionId = some id →
      ∃ s', Yields (c.scope req) s (req.bindPrincipal p, .ok ()) s' ∧ M.Same k s s'

end VisitEvent

namespace LoginCommand

open VisitEvent

/-- One operation of a visit. -/
theorem serve_inSync (h : M.Laws store fun _ => False) {c : LoginCommand (StateT σ (Except ε))}
    (hc : c.KeepsSessions M store) (hs : M.valid (k + 2) s) (hsync : ctx.InSync M s)
    (step : VisitStep) :
    ∃ out s', Yields (c.serve (step.request ctx)) s out s' ∧ M.valid k s' ∧
      out.context.InSync M s' ∧ ∀ ctx' p, out = .login (ctx', .ok p) →
        LoggedIn M store ⟨c, step, ctx, s, out, s'⟩ p := by
  cases step with
  | login username password =>
    obtain ⟨ctx', r, s', hrun, hvalid, hsync', hsettled⟩ :=
      login_inSync h hc hs hsync username password
    refine ⟨.login (ctx', r), s', hrun.bind (.pure _ _), hvalid, hsync', ?_⟩
    intro ctx₁ p hout
    obtain ⟨rfl, rfl⟩ := Prod.mk.inj (LoginOutcome.login.inj hout)
    obtain ⟨hdone, credential, identity, s₁, hparse, hverify, rfl⟩ := hsettled p rfl
    obtain ⟨id, hid, hholder⟩ := hdone.session
    exact ⟨⟨username, password, credential, identity, s₁, rfl, hparse, hverify, rfl⟩,
      hdone.principal, id, hid, hholder, fun hs₂ hholder₂ hstarted hreq =>
        scope_of_holder h hs₂ hstarted hreq hholder₂⟩
  | logout given =>
    obtain ⟨ctx', r, s', hrun, hvalid, hsync'⟩ :=
      logout_inSync h hc (h.weaken (h.weaken hs)) ctx given
    exact ⟨.logout (ctx', r), s', hrun.bind (.pure _ _), hvalid, hsync',
      fun ctx₁ p hout => by cases hout⟩

/-- Operations that start in step stay in step. -/
theorem exists_visit (h : M.Laws store fun _ => False)
    (steps : List (LoginCommand (StateT σ (Except ε)) × VisitStep))
    (hsteps : ∀ t ∈ steps, t.1.KeepsSessions M store) (hs : M.valid (k + 2 * steps.length) s)
    (hsync : ctx.InSync M s) :
    ∃ events, Visit ctx s events ∧ events.map (fun e => (e.command, e.step)) = steps ∧
      ∀ e ∈ events, e.outcome.context.InSync M e.after ∧
        ∀ ctx' p, e.outcome = .login (ctx', .ok p) → LoggedIn M store e p := by
  -- Along the operations, each of which draws at most two new ids.
  induction steps generalizing ctx s with
  | nil => exact ⟨[], .nil ctx s, rfl, by simp⟩
  | cons t rest ih =>
    obtain ⟨c, step⟩ := t
    have hs₁ : M.valid (k + 2 * rest.length + 2) s := hs
    obtain ⟨out, s', hrun, hvalid, hsync', hlogin⟩ :=
      serve_inSync h (hsteps _ List.mem_cons_self) hs₁ hsync step
    obtain ⟨events, hvisit, hmap, hall⟩ :=
      ih (fun t ht => hsteps t (List.mem_cons_of_mem _ ht)) hvalid hsync'
    refine ⟨⟨c, step, ctx, s, out, s'⟩ :: events,
      .cons (e := ⟨c, step, ctx, s, out, s'⟩) hrun hvisit, ?_, ?_⟩
    · rw [List.map_cons, hmap]
    · intro e he
      rcases List.mem_cons.1 he with rfl | he
      · exact ⟨hsync', hlogin⟩
      · exact hall e he

/-- A request gets its scope and then logs in and out in any order, each time by a command with
collaborators of its own over the same store. All of it is carried out, and after each operation
the principal bound to the request is the one in its session. After a login that succeeded this is
the principal that was verified, and the session gives it back to later requests. -/
theorem visit_inSync (h : M.Laws store fun _ => False)
    {c : LoginCommand (StateT σ (Except ε))} (hc : c.KeepsSessions M store)
    (steps : List (LoginCommand (StateT σ (Except ε)) × VisitStep))
    (hsteps : ∀ t ∈ steps, t.1.KeepsSessions M store) (hs : M.valid (2 * steps.length + 1) s)
    (hp : ctx.principal = none) :
    ∃ ctx₁ s₁ events, Yields (c.scope ctx) s (ctx₁, .ok ()) s₁ ∧ ctx₁.InSync M s₁ ∧
      Visit ctx₁ s₁ events ∧ events.map (fun e => (e.command, e.step)) = steps ∧
      ∀ e ∈ events, e.outcome.context.InSync M e.after ∧
        ∀ ctx' p, e.outcome = .login (ctx', .ok p) → LoggedIn M store e p := by
  obtain ⟨ctx₁, s₁, hscope, hvalid, hsync⟩ := scope_inSync h hc hs hp
  obtain ⟨events, hvisit, hmap, hall⟩ :=
    exists_visit (k := 0) h steps hsteps (by rw [Nat.zero_add]; exact hvalid) hsync
  exact ⟨ctx₁, s₁, events, hscope, hsync, hvisit, hmap, hall⟩

/-- Logins are remembered for two weeks. -/
def twoWeeks : RememberMeConfig := ⟨"remember-me", "secret", 1209600⟩

/-- A configuration in memory whose verifier vouches for everybody. -/
def trustingConfig (strategy : SessionStrategy (World.Run Unit)) :
    LoginConfig (World.Run Unit) where
  verifier := ⟨fun credential => return .ok ⟨credential.username.text, .empty⟩⟩
  store := some (World.sessionStore World.counting)
  strategy := strategy
  rememberMe := twoWeeks.service (return ⟨0⟩)
  handlers := some [twoWeeks.handler, .securityContext (some (World.sessionStore World.counting))]
  mode := .perSession
  invalidateSession := true

/-- The started command of that configuration. -/
def trusting (strategy : SessionStrategy (World.Run Unit)) : LoginCommand (World.Run Unit) :=
  ⟨trustingConfig strategy,
    some ⟨handlersOf (trustingConfig strategy), .perSession (World.sessionStore World.counting)⟩⟩

theorem keepsSessions_trusting {M : StoreModel (World Unit) τ}
    (h : M.Laws (World.sessionStore World.counting) fun _ => False)
    {strategy : SessionStrategy (World.Run Unit)}
    (hstrategy : strategy = .changeId (World.sessionStore World.counting) ∨ strategy.Aside M) :
    (trusting strategy).KeepsSessions M (World.sessionStore World.counting) where
  started := by
    refine ⟨_, rfl, ?_⟩
    intro handler hmem
    rcases List.mem_cons.1 hmem with rfl | hmem
    · exact LogoutHandler.harmless_rememberMe _
    · rw [List.mem_singleton.1 hmem]
      exact LogoutHandler.harmless_securityContext h _
  strategy := hstrategy
  verifier _ hs := ⟨_, _, .pure _ _, .refl hs⟩
  rememberMe := twoWeeks.reserved_service fun _ => ⟨_, .pure _ _⟩

/-- A request with the first session that was made. -/
def returning : RequestContext := { sessionId := World.counting 0 }

/-- In the session of somebody, a login that moves the request, one that is refused, and a
logout. -/
theorem visit_inSync_refused :
    ∃ ctx s, ∃ events : List (VisitEvent (World Unit) ClockOverflow),
      Yields ((trusting .null).scope returning) (World.holding World.alice) (ctx, .ok ()) s ∧
      Visit ctx s events ∧ events.map VisitEvent.step =
        [.login "bob" "1234", .login "carol" "5678", .logout none] ∧
      ∀ e ∈ events, e.outcome.context.InSync (World.model World.counting 8 60 0 ()) e.after := by
  have hlaws : (World.model World.counting 8 60 0 ()).Laws
      (World.sessionStore World.counting) fun _ => False :=
    World.laws (World.injOn_counting (by omega)) (by decide) (by decide) _
  have hs : (World.model World.counting 8 60 0 ()).valid 7 (World.holding World.alice) :=
    ⟨World.sound_holding World.alice, rfl, rfl, rfl, Nat.le_refl 8⟩
  have hnull := keepsSessions_trusting hlaws (.inr SessionStrategy.aside_null)
  have hmoving := keepsSessions_trusting hlaws (.inl rfl)
  have hrefusing := keepsSessions_trusting hlaws (.inr (SessionStrategy.aside_refusing "closed"))
  have hsteps : ∀ t ∈ [(trusting (.changeId (World.sessionStore World.counting)),
        VisitStep.login "bob" "1234"), (trusting (.refusing "closed"), .login "carol" "5678"),
        (trusting .null, .logout none)],
      t.1.KeepsSessions (World.model World.counting 8 60 0 ())
        (World.sessionStore World.counting) := by
    simp only [List.forall_mem_cons, List.not_mem_nil, false_implies, implies_true, and_true]
    exact ⟨hmoving, hrefusing, hnull⟩
  have hp : returning.principal = none := rfl
  obtain ⟨ctx, s, events, hscope, -, hvisit, hmap, hall⟩ :=
    visit_inSync hlaws hnull _ hsteps hs hp
  refine ⟨ctx, s, events, hscope, hvisit, ?_, fun e he => (hall e he).1⟩
  have hstep := congrArg (List.map Prod.snd) hmap
  rwa [List.map_map] at hstep

end LoginCommand

/-- Settings that keep logins in sessions lead to such a command. -/
theorem Deployment.keepsSessions (h : M.Laws store fun _ => False) {settings : Settings}
    (hmode : settings.login.mode = .perSession) {clock : StateT σ (Except ε) Timestamp}
    (hclock : ∀ s, ∃ t, Yields clock s t s) {verifier : Verifier (StateT σ (Except ε))}
    (hverifier : verifier.Apart M) :
    ∃ c, command settings clock store verifier = .ok c ∧ c.KeepsSessions M store := by
  refine ⟨_, command_eq hmode clock store verifier, ⟨_, rfl, ?_⟩, .inl ?_, hverifier, ?_⟩
  · exact forall_logoutHandlers (fun ends => LogoutHandler.harmless_securityContext h ends)
      (fun rc => LogoutHandler.harmless_rememberMe rc)
      fun names => LogoutHandler.harmless_cookieClearing names
  · simp only [loginConfig, hmode, Mode.isPerClient]
    rfl
  · show (loginConfig settings clock store verifier).rememberMe.Reserved M
    rw [loginConfig]
    dsimp only
    split
    · exact (rememberMeConfig settings).reserved_service hclock
    · exact RememberMe.reserved_null

end WebLogin
