/-
Requests to a service in memory, and who is in which session after them.

The sessions that a request names and leaves, whatever it asks for: `LoginCommand.Over` says what
kind of command answers it. A request in which nobody is found and nobody logs in puts nobody into
any session.

* `LoginCommand.scope_of_yields` — how a request gets its scope, in three cases;
* `LoginCommand.scope_of_nobody` — it gets one in which nobody is found;
* `Scoped.nobody` — nobody is found if nobody is in the session and no token is brought;
* `LoginCommand.login_moves`, `LoginCommand.logout_of_yields` — logging in and logging out;
* `LoginCommand.login_of_error` — a login that fails.
-/
import WebLogin.Proofs.Login.Moves
import WebLogin.Proofs.Logout.Clearing
import WebLogin.Proofs.Service.Machine

namespace WebLogin

open World (Calm Rests Shifts Drawn Settles)
open RequestContext (Clears)

variable {α β : Type} {ids : Nat → SessionId} {w w' : World α} {ctx ctx' : RequestContext}

/-! ### Logging out -/

namespace LogoutHandler

theorem securityContext_rests (ends : Bool) (ctx : RequestContext) (p : Option Principal) :
    Resting ids ctx.sessionId
      ((securityContext (some (World.sessionStore ids)) ends :
        LogoutHandler (World.Run α)).cleanup ctx p) := by
  rw [securityContext]
  dsimp only
  cases ends with
  | false => exact .pure rfl
  | true =>
    cases hid : ctx.sessionId with
    | none => exact .pure hid
    | some id =>
      intro w step w' hw h
      obtain ⟨r, w₁, hinvalidate, hrest⟩ := h.of_bind
      obtain ⟨-, hcalm, hvacant, -⟩ := World.invalidate_of_yields hw hinvalidate
      obtain ⟨rfl, rfl⟩ := hrest.eq (.pure _ _)
      exact ⟨hcalm, .inr ⟨rfl, fun hid' => Option.some.inj hid' ▸ hvacant⟩⟩

theorem cookieClearing_rests (names : List String) (ctx : RequestContext) (p : Option Principal) :
    Resting ids ctx.sessionId
      ((cookieClearing names : LogoutHandler (World.Run α)).cleanup ctx p) := by
  refine .pure ?_
  induction names generalizing ctx with
  | nil => rfl
  | cons name names ih => exact ih (ctx.addResponseCookie (.removal name))

end LogoutHandler

theorem LogoutSequence.runHandlers_rests {p : Option Principal}
    {handlers : List (LogoutHandler (World.Run α))}
    (hall : ∀ handler ∈ handlers, ∀ ctx p, Resting ids ctx.sessionId (handler.cleanup ctx p))
    (ctx : RequestContext) : Resting ids ctx.sessionId (runHandlers p handlers ctx) := by
  induction handlers generalizing ctx with
  | nil => exact .pure rfl
  | cons handler rest ih =>
    refine (hall handler List.mem_cons_self ctx p).bind ?_
    intro step
    refine (ih (fun handler hmem => hall handler (List.mem_cons_of_mem _ hmem)) step.1).bind ?_
    exact fun _ => .pure rfl

theorem Deployment.rests_logoutHandlers {settings : Settings} :
    ∀ handler ∈ logoutHandlers settings (World.sessionStore ids : SessionStore (World.Run α)),
      ∀ ctx p, Resting ids ctx.sessionId (handler.cleanup ctx p) :=
  forall_logoutHandlers LogoutHandler.securityContext_rests (fun _ _ _ => .pure rfl)
    LogoutHandler.cookieClearing_rests

/-! ### Commands -/

/-- A command over the store of a world that remembers logins, as some settings set it up. -/
structure LoginCommand.Over (ids : Nat → SessionId) (settings : Settings)
    (clock : World.Run α Timestamp) (c : LoginCommand (World.Run α)) : Prop where
  started : c.started = some ⟨Deployment.logoutHandlers settings (World.sessionStore ids),
    Deployment.binderOf settings (World.sessionStore ids)⟩
  verifier : ∀ credential, Calming ids (c.config.verifier.verify credential)
  strategy : c.config.strategy.Over ids
  rememberMe : c.config.rememberMe = (Deployment.rememberMeConfig settings).service clock
  clock : ∀ w, ∃ now, Yields clock w now w

theorem LoginCommand.Over.calming {settings : Settings} {clock : World.Run α Timestamp}
    {c : LoginCommand (World.Run α)} (hc : c.Over ids settings clock) : Calming ids clock := by
  intro w now w' hw h
  obtain ⟨now', hnow⟩ := hc.clock w
  obtain ⟨-, rfl⟩ := h.eq hnow
  exact .refl hw

namespace Deployment

theorem over_binderOf (settings : Settings) :
    (binderOf settings (World.sessionStore ids) : SessionBinder (World.Run α)).Over ids := by
  rw [binderOf]
  split
  · exact .perSession
  · exact .perClient

theorem binderOf_ne_perClient {settings : Settings} (hmode : settings.login.mode = .perSession) :
    (binderOf settings (World.sessionStore ids) : SessionBinder (World.Run α)) ≠ .perClient := by
  rw [binderOf, hmode]
  simp

theorem perSession_of_binderOf {settings : Settings}
    (h : (binderOf settings (World.sessionStore ids) : SessionBinder (World.Run α)) ≠ .perClient) :
    settings.login.mode = .perSession := by
  cases hmode : settings.login.mode with
  | perSession => rfl
  | perClient =>
    rw [binderOf, hmode] at h
    exact absurd rfl h

theorem over_of_command {settings : Settings} {clock : World.Run α Timestamp}
    {v : Verifier (StateM α)} {c : LoginCommand (World.Run α)}
    (hc : command settings clock (World.sessionStore ids) (World.liftVerifier v) = .ok c)
    (henabled : settings.rememberMe.enabled = true)
    (hclock : ∀ w, ∃ now, Yields clock w now w) :
    c.Over ids settings clock := by
  obtain rfl := Except.ok.inj (hc.symm.trans (command_eq_binderOf _ _ _ _))
  refine ⟨rfl, ?_, ?_, ?_, hclock⟩
  · intro credential w verdict w' hw h
    obtain ⟨-, rfl⟩ := h.eq (World.elsewhere_yields (v.verify credential) w)
    exact ⟨⟨hw.store, hw.drawn⟩, Nat.le_refl _, fun h => h⟩
  · show (if settings.login.mode.isPerClient then _ else _ : SessionStrategy _).Over ids
    split
    · exact .null
    · exact .changeId
  · show (if settings.rememberMe.enabled then _ else _) = _
    rw [henabled]
    rfl

end Deployment

/-- How a request gets its scope. Somebody is restored, nobody is found, or somebody is remembered
and bound. -/
inductive Scoped (ids : Nat → SessionId) (b : SessionBinder (World.Run α)) (rc : RememberMeConfig)
    (ctx : RequestContext) (w : World α) : Step ScopeError Unit → World α → Prop where
  | restored {ctx₁ : RequestContext} {w₁ : World α} (restores : b.Restores ids ctx ctx₁ w w₁)
      (somebody : ctx₁.principal ≠ none) : Scoped ids b rc ctx w (ctx₁, .ok ()) w₁
  | alone {ctx₁ : RequestContext} {w₁ w₂ : World α} {now : Timestamp}
      (restores : b.Restores ids ctx ctx₁ w w₁) (nobody : ctx₁.principal = none)
      (calm : Calm ids w₁ w₂) (unknown : (rc.autoLogin now ctx₁).2 = none) :
      Scoped ids b rc ctx w ((rc.autoLogin now ctx₁).1, .ok ()) w₂
  | remembered {ctx₁ : RequestContext} {w₁ w₂ w₃ : World α} {now : Timestamp} {p : Principal}
      {step : Step StoreError Unit} (restores : b.Restores ids ctx ctx₁ w w₁)
      (nobody : ctx₁.principal = none) (calm : Calm ids w₁ w₂)
      (known : (rc.autoLogin now ctx₁).2 = some p)
      (binds : b.Binds ids (rc.autoLogin now ctx₁).1 p step w₂ w₃) :
      Scoped ids b rc ctx w (step.1, step.2.mapError .store) w₃

namespace Scoped

variable {b : SessionBinder (World.Run α)} {rc : RememberMeConfig} {step : Step ScopeError Unit}

theorem moves (h : Scoped ids b rc ctx w step w') :
    Shifts ids ctx.sessionId step.1.sessionId w w' := by
  cases h with
  | restored restores => exact restores.rests.moves
  | alone restores nobody calm =>
    rw [(rc.sameLogin_autoLogin _ _).sessionId]
    exact (restores.rests.trans (calm.rests _)).moves
  | remembered restores nobody calm known binds =>
    have hmoves := binds.moves
    rw [(rc.sameLogin_autoLogin _ _).sessionId] at hmoves
    exact (restores.rests.trans (calm.rests _)).moves.trans hmoves

theorem onlyRemovals (h : Scoped ids b rc ctx w step w') (hctx : ctx.OnlyRemovals) :
    step.1.OnlyRemovals := by
  cases h with
  | restored restores => exact restores.cookies.onlyRemovals hctx
  | alone restores => exact (restores.cookies.onlyRemovals hctx).autoLogin rc _
  | remembered restores nobody calm known binds =>
    intro c hc
    rw [binds.queued] at hc
    exact (restores.cookies.onlyRemovals hctx).autoLogin rc _ c hc

/-- The session that a request has in its scope was drawn. -/
theorem drawn (h : Scoped ids b rc ctx w step w') (hb : b ≠ .perClient) {id : SessionId}
    (hid : step.1.sessionId = some id) : Drawn ids w' id := by
  cases h with
  | restored restores => exact restores.drawn hb id hid
  | alone restores nobody calm =>
    rw [(rc.sameLogin_autoLogin _ _).sessionId] at hid
    exact (restores.drawn hb id hid).mono calm.drawn
  | remembered restores nobody calm known binds => exact binds.drawn hb id hid

/-- A scope in which nobody is found puts nobody into a session. -/
theorem calm_of_nobody (h : Scoped ids b rc ctx w step w') (hnobody : step.1.principal = none) :
    Calm ids w w' ∧ (step.2 = .ok () → Rests ids ctx.sessionId step.1.sessionId w w') := by
  cases h with
  | restored restores somebody => exact absurd hnobody somebody
  | alone restores nobody calm =>
    rw [(rc.sameLogin_autoLogin _ _).sessionId]
    have hrests := restores.rests.trans (calm.rests _)
    exact ⟨hrests.calm, fun _ => hrests⟩
  | @remembered _ _ _ _ _ _ bound restores nobody calm known binds =>
    obtain ⟨ctx₃, r⟩ := bound
    cases r with
    | error e =>
      exact ⟨(restores.rests.calm.trans calm).trans (binds.calm rfl), fun h => by cases h⟩
    | ok u =>
      have hbound := binds.bound rfl
      rw [show ctx₃.principal = none from hnobody] at hbound
      cases hbound

/-- Nobody is found if nobody is in the session and no token is brought. -/
theorem nobody (h : Scoped ids b rc ctx w step w') (hctx : ctx.principal = none)
    (hvacant : b ≠ .perClient → ∀ id, ctx.sessionId = some id → w.Vacant id)
    (htoken : ctx.requestCookie? rc.cookieName = none) :
    step.1.principal = none ∧ step.2 = .ok () := by
  have hauto {ctx₁ : RequestContext} (hcookies : ctx.SameCookies ctx₁) (now : Timestamp) :
      (rc.autoLogin now ctx₁).2 = none := by
    have hnone : ctx₁.requestCookie? rc.cookieName = none := by
      rw [RequestContext.requestCookie?, hcookies.brought]
      exact htoken
    rw [RememberMeConfig.autoLogin, hnone]
  cases h with
  | restored restores somebody => exact absurd ((restores.nobody hvacant).trans hctx) somebody
  | alone restores nobody =>
    exact ⟨(rc.sameLogin_autoLogin _ _).principal.trans nobody, rfl⟩
  | remembered restores nobody calm known =>
    rw [hauto restores.cookies] at known
    cases known

end Scoped

namespace LoginCommand

variable {settings : Settings} {clock : World.Run α Timestamp} {c : LoginCommand (World.Run α)}

theorem scope_of_yields (hc : c.Over ids settings clock) (hw : w.Sound ids)
    {step : Step ScopeError Unit} (h : Yields (c.scope ctx) w step w') :
    Scoped ids (Deployment.binderOf settings (World.sessionStore ids))
      (Deployment.rememberMeConfig settings) ctx w step w' := by
  have hover : (Deployment.binderOf settings (World.sessionStore ids) :
      SessionBinder (World.Run α)).Over ids := Deployment.over_binderOf settings
  simp only [scope, hc.started] at h
  obtain ⟨⟨ctx₁, r⟩, w₁, hrestore, hrest⟩ := h.of_bind
  obtain ⟨rfl, hrestores⟩ := SessionBinder.restore_of_yields hover hw hrestore
  cases hp : ctx₁.principal with
  | some p =>
    simp only [RequestContext.isAuthenticated, hp, Option.isSome_some, if_true] at hrest
    obtain ⟨rfl, rfl⟩ := hrest.eq (.pure _ _)
    exact .restored hrestores (by simp [hp])
  | none =>
    simp only [RequestContext.isAuthenticated, hp, Option.isSome_none, Bool.false_eq_true,
      if_false, hc.rememberMe] at hrest
    obtain ⟨answer, w₂, hauto, hrest⟩ := hrest.of_bind
    obtain ⟨now, w₃, hnow, hpure⟩ := hauto.of_bind
    obtain ⟨hanswer, rfl⟩ := hpure.eq (.pure _ _)
    have hcalm : Calm ids w₁ w₂ := hc.calming hrestores.rests.calm.sound hnow
    obtain ⟨ctx₂, found⟩ := answer
    cases found with
    | none =>
      obtain ⟨rfl, rfl⟩ := hrest.eq (.pure _ _)
      have hnone : ((Deployment.rememberMeConfig settings).autoLogin now ctx₁).2 = none := by
        rw [← hanswer]
      have halone := Scoped.alone hrestores hp hcalm hnone
      rwa [← hanswer] at halone
    | some p =>
      obtain ⟨bound, w₄, hbind, hrest⟩ := hrest.of_bind
      have hbinds := SessionBinder.bind_of_yields hover hcalm.sound hbind
      obtain ⟨rfl, rfl⟩ := hrest.eq (.pure _ _)
      have hsome : ((Deployment.rememberMeConfig settings).autoLogin now ctx₁).2 = some p := by
        rw [← hanswer]
      refine .remembered hrestores hp hcalm hsome ?_
      rwa [← hanswer]

/-- If nobody is in the session and no token is brought, a request gets a scope with nobody in
it. -/
theorem scope_of_nobody (hc : c.Over ids settings clock) (hw : w.Sound ids)
    (hctx : ctx.principal = none)
    (hvacant : settings.login.mode = .perSession → ∀ id, ctx.sessionId = some id → w.Vacant id)
    (htoken : ctx.requestCookie? settings.rememberMe.cookieName = none) :
    ∃ ctx' w', Yields (c.scope ctx) w (ctx', .ok ()) w' ∧ ctx'.principal = none := by
  have hover : (Deployment.binderOf settings (World.sessionStore ids) :
      SessionBinder (World.Run α)).Over ids := Deployment.over_binderOf settings
  obtain ⟨ctx₁, w₁, hrestore⟩ := SessionBinder.restore_ends hover ctx w
  obtain ⟨-, hrestores⟩ := SessionBinder.restore_of_yields hover hw hrestore
  have hnobody : ctx₁.principal = none := by
    refine (hrestores.nobody fun hb => hvacant ?_).trans hctx
    exact Deployment.perSession_of_binderOf hb
  obtain ⟨now, hnow⟩ := hc.clock w₁
  have hauto : (Deployment.rememberMeConfig settings).autoLogin now ctx₁ = (ctx₁, none) := by
    have hnone : ctx₁.requestCookie? settings.rememberMe.cookieName = none := by
      rw [RequestContext.requestCookie?, hrestores.cookies.brought]
      exact htoken
    simp only [RememberMeConfig.autoLogin, Deployment.rememberMeConfig, hnone]
  refine ⟨ctx₁, w₁, ?_, hnobody⟩
  simp only [scope, hc.started]
  refine hrestore.bind ?_
  simp only [RequestContext.isAuthenticated, hnobody, Option.isSome_none, Bool.false_eq_true,
    if_false, hc.rememberMe]
  have hasked : Yields (((Deployment.rememberMeConfig settings).service clock).autoLogin ctx₁) w₁
      (ctx₁, none) w₁ := by
    rw [← hauto]
    exact hnow.bind (.pure _ _)
  exact hasked.bind (.pure _ _)

theorem Over.authentication (hc : c.Over ids settings clock) :
    (c.authentication ⟨Deployment.logoutHandlers settings (World.sessionStore ids),
      Deployment.binderOf settings (World.sessionStore ids)⟩).Over ids
        (Deployment.rememberMeConfig settings) clock :=
  ⟨hc.verifier, Deployment.over_binderOf settings, hc.strategy, hc.rememberMe⟩

theorem login_moves (hc : c.Over ids settings clock) (ctx : RequestContext)
    (username password : String) :
    Moving ids ctx.sessionId (c.login ctx username password) := by
  simp only [login, hc.started]
  exact (Authentication.run_moves hc.authentication hc.calming ctx username password).bind
    fun _ => Resting.moving (.pure rfl)

/-- A login that fails puts nobody into a session of the store. If it is turned down with a reason,
it leaves the request where it is. -/
theorem login_of_error (hc : c.Over ids settings clock) (hw : w.Sound ids)
    {username password : String} {e : LoginError}
    (h : Yields (c.login ctx username password) w (ctx', .error e) w') :
    ∃ f, e = .failed f ∧ (f.reason ≠ .other → ctx'.sessionId = ctx.sessionId) ∧
      (ctx.OnlyRemovals → ctx'.OnlyRemovals) ∧
      (settings.login.mode = .perSession → Settles ids ctx.sessionId ctx'.sessionId w w') := by
  simp only [login, hc.started] at h
  obtain ⟨⟨ctx₁, r⟩, w₁, hrun, hrest⟩ := h.of_bind
  obtain ⟨hstep, rfl⟩ := hrest.eq (.pure _ _)
  obtain ⟨rfl, hr⟩ := Prod.mk.inj hstep
  cases r with
  | ok p => cases hr
  | error f =>
    obtain ⟨hturned, hremovals, hsettles⟩ := Authentication.run_of_error hc.authentication hw hrun
    refine ⟨f, Except.error.inj hr, fun hf => ?_, hremovals, fun hmode => ?_⟩
    · rw [hturned hf]
      rfl
    · exact hsettles (Deployment.binderOf_ne_perClient hmode)

/-- A logout leaves to the request its session or none, with nobody in it, and queues the removal of
every cookie that it is to remove. -/
theorem logout_of_yields (hc : c.Over ids settings clock) (hw : w.Sound ids)
    (henabled : settings.rememberMe.enabled = true) {r : Except LogoutError Unit}
    (h : Yields (c.logout ctx none) w (ctx', r) w') :
    Rests ids ctx.sessionId ctx'.sessionId w w' ∧ ctx'.principal = none ∧
      Clears (Deployment.cleared settings) ctx ctx' ∧
      (settings.login.mode = .perSession → ∀ id, ctx'.sessionId = some id → w'.Vacant id) := by
  simp only [logout, hc.started] at h
  obtain ⟨⟨ctx₁, failures⟩, w₁, hhandlers, hrest⟩ := h.of_bind
  obtain ⟨⟨ctx₂, unbound⟩, w₂, hunbind, hpure⟩ := hrest.of_bind
  obtain ⟨hstep, rfl⟩ := hpure.eq (.pure _ _)
  obtain ⟨rfl, -⟩ := Prod.mk.inj hstep
  have hfirst : Rests ids ctx.sessionId ctx₁.sessionId w w₁ :=
    LogoutSequence.runHandlers_rests Deployment.rests_logoutHandlers ctx hw hhandlers
  obtain ⟨rfl, hcalm, hvacant⟩ :=
    SessionBinder.unbind_of_yields (Deployment.over_binderOf settings) hfirst.calm.sound hunbind
  obtain ⟨calls, hcleans⟩ := LogoutSequence.CleansUp.of_yields hhandlers
  refine ⟨hfirst.trans (hcalm.rests _), rfl,
    (Deployment.clears_of_cleansUp henabled hcleans).unbind, fun hmode => ?_⟩
  exact hvacant (Deployment.binderOf_ne_perClient hmode)

end LoginCommand

end WebLogin
