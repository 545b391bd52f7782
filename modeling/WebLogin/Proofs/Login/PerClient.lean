/-
Logins that are kept nowhere.

In per-client mode a principal is bound to the request alone. That no session is touched rests on
several decisions: the binder of that mode has no store, the usual handler of a logout ends no
session, and a service that is started in that mode leaves out the strategy that moves requests to
other sessions. So it does not matter which store there is, or whether it works.

* `LoginCommand.PerClient` — a command with the usual handlers, or that of a service;
* `LoginCommand.PerClient.standsAlone` — what it is set up with, wherever it comes from;
* `ContextEvent.serve_alone` — one operation on a request;
* `LoginCommand.perClient_principal` — any operations one after the other.
-/
import WebLogin.Proofs.Login.Protocol
import WebLogin.Proofs.Login.Sync
import WebLogin.Proofs.Service.Start

namespace WebLogin

variable {σ ω ε α β : Type} {inv : σ → Prop} {s : σ} {log : List LoginCall}

/-- A computation ends wherever it is started, keeps an invariant and writes nothing down; its value
satisfies a postcondition. -/
def Quiet (inv : σ → Prop) (Q : α → Prop) (x : Recording σ ε α) : Prop :=
  ∀ s log, inv s → ∃ a s', Yields x (s, log) a (s', log) ∧ inv s' ∧ Q a

namespace Quiet

variable {P : α → Prop} {Q : β → Prop} {x : Recording σ ε α} {f : α → Recording σ ε β}

theorem pure {a : α} (h : P a) : Quiet inv P (pure a : Recording σ ε α) := by
  intro s log hs
  exact ⟨a, s, .pure a (s, log), hs, h⟩

theorem bind (hx : Quiet inv P x) (hf : ∀ a, P a → Quiet inv Q (f a)) :
    Quiet inv Q (x >>= f) := by
  intro s log hs
  obtain ⟨a, s₁, hx, hs₁, ha⟩ := hx s log hs
  obtain ⟨b, s', hf, hs', hb⟩ := hf a ha s₁ log hs₁
  exact ⟨b, s', hx.bind hf, hs', hb⟩

end Quiet

/-- What was lifted into a computation that may give up was carried out. -/
theorem Yields.of_lift {δ : Type} {x : StateT ω (Except ε) α} {a : α} {w w' : ω}
    (h : Yields (liftM x : ExceptT δ (StateT ω (Except ε)) α).run w (.ok a) w') :
    Yields x w a w' := by
  have hlifted : Yields (x >>= fun a => Pure.pure (.ok a) : StateT ω (Except ε) (Except δ α)) w
      (.ok a) w' := h
  obtain ⟨b, w₁, hx, hpure⟩ := hlifted.of_bind
  obtain ⟨hok, rfl⟩ := hpure.eq (.pure _ _)
  rwa [Except.ok.inj hok]

/-! ### Collaborators that write nothing down -/

/-- A verifier that answers, in whatever way. -/
def Verifier.Quiet (inv : σ → Prop) (verifier : Verifier (Recording σ ε)) : Prop :=
  ∀ credential, WebLogin.Quiet inv (fun _ => True) (verifier.verify credential)

/-- Somebody who remembers logins, answers, and leaves to a request its session and its
principal. -/
structure RememberMe.Quiet (inv : σ → Prop) (rm : RememberMe (Recording σ ε)) : Prop where
  autoLogin : ∀ ctx, WebLogin.Quiet inv (fun answer => ctx.SameLogin answer.1) (rm.autoLogin ctx)
  loginSuccess : ∀ ctx p, WebLogin.Quiet inv ctx.SameLogin (rm.loginSuccess ctx p)
  loginFail : ∀ ctx, WebLogin.Quiet inv ctx.SameLogin (rm.loginFail ctx)

theorem RememberMe.quiet_null : (RememberMe.null : RememberMe (Recording σ ε)).Quiet inv where
  autoLogin ctx := .pure (.refl ctx)
  loginSuccess ctx _ := .pure (.refl ctx)
  loginFail ctx := .pure (.refl ctx)

theorem RememberMeConfig.quiet_service (rc : RememberMeConfig) {clock : Recording σ ε Timestamp}
    (hclock : Quiet inv (fun _ => True) clock) : (rc.service clock).Quiet inv where
  autoLogin ctx := hclock.bind fun now _ => .pure (rc.sameLogin_autoLogin now ctx)
  loginSuccess ctx p := hclock.bind fun now _ => .pure (rc.sameLogin_loginSuccess now ctx p)
  loginFail _ := .pure ⟨rfl, rfl⟩

/-- A directory of users that is kept in memory has nothing to ask for. -/
theorem UserDirectory.quiet_verifier (scheme : PasswordScheme) (d : UserDirectory) :
    (d.verifier scheme : Verifier (Recording σ ε)).Quiet inv :=
  fun _ => .pure trivial

/-! ### Handlers that touch no session -/

/-- A handler that succeeds whatever the state is, leaves it as it is, and leaves to a request its
session and its principal. -/
def LogoutHandler.Aloof (h : LogoutHandler (StateT ω (Except ε))) : Prop :=
  ∀ ctx p w, ∃ ctx', Yields (h.cleanup ctx p) w (ctx', .ok ()) w ∧ ctx.SameLogin ctx'

namespace LogoutHandler

theorem aloof_securityContext (store : Option (SessionStore (StateT ω (Except ε)))) :
    (securityContext store false).Aloof :=
  fun ctx _ w => ⟨ctx, .pure _ w, .refl ctx⟩

theorem aloof_rememberMe (rc : RememberMeConfig) :
    (rc.handler : LogoutHandler (StateT ω (Except ε))).Aloof :=
  fun ctx _ w => ⟨rc.clearCookie ctx, .pure _ w, rfl, rfl⟩

theorem aloof_cookieClearing (names : List String) :
    (cookieClearing names : LogoutHandler (StateT ω (Except ε))).Aloof := by
  intro ctx p w
  refine ⟨_, .pure _ w, ?_⟩
  induction names generalizing ctx with
  | nil => exact .refl ctx
  | cons name names ih =>
    have hfirst : ctx.SameLogin (ctx.addResponseCookie (.removal name)) := ⟨rfl, rfl⟩
    exact hfirst.trans (ih _)

end LogoutHandler

theorem LogoutSequence.runHandlers_aloof {handlers : List (LogoutHandler (StateT ω (Except ε)))}
    (hall : ∀ h ∈ handlers, h.Aloof) (p : Option Principal) (ctx : RequestContext) (w : ω) :
    ∃ ctx', Yields (runHandlers p handlers ctx) w (ctx', []) w ∧ ctx.SameLogin ctx' := by
  induction handlers generalizing ctx with
  | nil => exact ⟨ctx, .pure _ w, .refl ctx⟩
  | cons h rest ih =>
    obtain ⟨hhead, hrest⟩ := List.forall_mem_cons.1 hall
    obtain ⟨ctx₁, hcleanup, hctx₁⟩ := hhead ctx p w
    obtain ⟨ctx', hrun, hctx'⟩ := ih hrest ctx₁
    exact ⟨ctx', hcleanup.bind (hrun.bind (.pure _ w)), hctx₁.trans hctx'⟩

/-! ### Commands in per-client mode -/

namespace LoginCommand

/-- A started command in per-client mode. Either it has the null strategy and the usual handler of a
logout, or it was built from settings.

Its store may be any one, so also one that writes down every call that it gets, and one whose calls
all fail. Those who check credentials and those who remember logins write nothing down. -/
inductive PerClient (inv : σ → Prop) (c : LoginCommand (Recording σ ε)) : Prop where
  | usual {c₀ : LoginCommand (Recording σ ε)} (start : start.run c₀ = .ok () c)
      (mode : c₀.config.mode = .perClient) (strategy : c₀.config.strategy = .null)
      (handlers : c₀.config.handlers = none) (verifier : c₀.config.verifier.Quiet inv)
      (rememberMe : c₀.config.rememberMe.Quiet inv)
  | deployed {r : Resources (Recording σ ε)} {settings : Settings} {w w' : σ × List LoginCall}
      (start : Yields (Deployment.start r settings).run w (.ok c) w')
      (mode : settings.login.mode = .perClient) (clock : Quiet inv (fun _ => True) r.clock)
      (database : ∀ url w verifier w', Yields (r.database url) w (.ok verifier) w' →
        verifier.Quiet inv)

/-- A started command whose binder knows no store, with nobody in it who touches a session. -/
structure StandsAlone (inv : σ → Prop) (handlers : List (LogoutHandler (Recording σ ε)))
    (c : LoginCommand (Recording σ ε)) : Prop where
  started : c.started = some ⟨handlers, .perClient⟩
  handlers : ∀ h ∈ handlers, h.Aloof
  strategy : c.config.strategy = .null
  verifier : c.config.verifier.Quiet inv
  rememberMe : c.config.rememberMe.Quiet inv

variable {c : LoginCommand (Recording σ ε)}

/-- The usual handler does not end the session in this mode, whether sessions are to be ended or
not. -/
theorem aloof_handlersOf {config : LoginConfig (StateT ω (Except ε))}
    (hmode : config.mode = .perClient) (hhandlers : config.handlers = none) :
    ∀ h ∈ handlersOf config, h.Aloof := by
  have hends : (config.invalidateSession && !config.mode.isPerClient) = false := by
    simp [hmode, Mode.isPerClient]
  rw [handlersOf, hhandlers, Option.getD_none, List.forall_mem_singleton, hends]
  exact LogoutHandler.aloof_securityContext config.store

theorem standsAlone_of_start {c₀ : LoginCommand (Recording σ ε)} (hstart : start.run c₀ = .ok () c)
    (hmode : c₀.config.mode = .perClient) (hstrategy : c₀.config.strategy = .null)
    (hhandlers : c₀.config.handlers = none) (hverifier : c₀.config.verifier.Quiet inv)
    (hremember : c₀.config.rememberMe.Quiet inv) :
    ∃ handlers, c.StandsAlone inv handlers := by
  rw [run_start, hmode] at hstart
  split at hstart
  · cases hstart
  · obtain ⟨-, rfl⟩ := EStateM.Result.ok.inj hstart
    exact ⟨_, rfl, aloof_handlersOf hmode hhandlers, hstrategy, hverifier, hremember⟩

end LoginCommand

namespace Deployment

variable {settings : Settings} {r : Resources (Recording σ ε)} {w w' : σ × List LoginCall}

/-- Whoever vouches for the users of a service writes nothing down, if those of the database do
not. -/
theorem quiet_openVerifier {verifier : Verifier (Recording σ ε)}
    (h : Yields (openVerifier r settings).run w (.ok verifier) w')
    (hdatabase : ∀ url w verifier w', Yields (r.database url) w (.ok verifier) w' →
      verifier.Quiet inv) : verifier.Quiet inv := by
  rw [openVerifier] at h
  cases hbackend : settings.verifier.backend with
  | memory =>
    rw [hbackend] at h
    obtain ⟨d, w₁, -, hrest⟩ := h.of_bind_ok
    have hgave : Yields (pure (.ok (d.verifier .argon2)) :
        Recording σ ε (Except StartupError (Verifier (Recording σ ε)))) w₁ (.ok verifier) w' :=
      hrest
    obtain rfl := Except.ok.inj (hgave.eq (.pure _ _)).1
    exact d.quiet_verifier .argon2
  | postgres =>
    rw [hbackend] at h
    obtain ⟨opened, w₁, hopened, hrest⟩ := h.of_bind_ok
    obtain ⟨rfl, rfl⟩ := of_report hrest
    exact hdatabase _ _ _ _ hopened.of_lift

/-- No handler of a service in this mode ends a session. -/
theorem aloof_logoutHandlers (hmode : settings.login.mode = .perClient)
    (store : SessionStore (StateT ω (Except ε))) :
    ∀ h ∈ logoutHandlers settings store, h.Aloof := by
  have hends : (settings.login.invalidateSession && !settings.login.mode.isPerClient) = false := by
    simp [hmode, Mode.isPerClient]
  intro h hmem
  rw [logoutHandlers, hends, List.mem_append, List.mem_append, List.mem_singleton] at hmem
  rcases hmem with (rfl | hmem) | hmem
  · exact LogoutHandler.aloof_securityContext store
  · split at hmem
    · exact List.mem_singleton.1 hmem ▸ LogoutHandler.aloof_rememberMe _
    · cases hmem
  · split at hmem
    · cases hmem
    · exact List.mem_singleton.1 hmem ▸ LogoutHandler.aloof_cookieClearing _

/-- The command of a service whose settings ask for this mode stands alone. -/
theorem standsAlone_of_start {c : LoginCommand (Recording σ ε)}
    (hstart : Yields (start r settings).run w (.ok c) w')
    (hmode : settings.login.mode = .perClient) (hclock : Quiet inv (fun _ => True) r.clock)
    (hdatabase : ∀ url w verifier w', Yields (r.database url) w (.ok verifier) w' →
      verifier.Quiet inv) : ∃ handlers, c.StandsAlone inv handlers := by
  rw [start] at hstart
  obtain ⟨_, w₁, -, hrest₁⟩ := hstart.of_bind_ok
  obtain ⟨store, w₂, -, hrest₂⟩ := hrest₁.of_bind_ok
  obtain ⟨verifier, w₃, hverifier, hreport⟩ := hrest₂.of_bind_ok
  obtain ⟨hc, -⟩ := of_report hreport
  rw [command_eq_binderOf] at hc
  obtain rfl := Except.ok.inj hc
  refine ⟨_, ?_, aloof_logoutHandlers hmode store, ?_, quiet_openVerifier hverifier hdatabase, ?_⟩
  · simp only [binderOf, hmode]
  · simp only [loginConfig, hmode, Mode.isPerClient]
    rfl
  · show (if settings.rememberMe.enabled then _ else _ : RememberMe _).Quiet inv
    split
    · exact (rememberMeConfig settings).quiet_service hclock
    · exact RememberMe.quiet_null

end Deployment

theorem LoginCommand.PerClient.standsAlone {c : LoginCommand (Recording σ ε)}
    (h : c.PerClient inv) : ∃ handlers, c.StandsAlone inv handlers := by
  cases h with
  | usual start mode strategy handlers verifier rememberMe =>
    exact standsAlone_of_start start mode strategy handlers verifier rememberMe
  | deployed start mode clock database =>
    exact Deployment.standsAlone_of_start start mode clock database

/-! ### One operation -/

namespace LoginCommand

/-- Why a login is turned down: the name is no username, or the verifier does not vouch for the
credential. -/
inductive TurnsDown (c : LoginCommand (StateT ω (Except ε))) (w : ω) (username password : String) :
    LoginFailure → Prop where
  | unnamed {e : UsernameError} (parse : Credential.parse username password = .error e) :
      TurnsDown c w username password (.ofUsernameError e)
  | unverified {credential : Credential} {e : VerificationError} {w' : ω}
      (parse : Credential.parse username password = .ok credential)
      (verify : Yields (c.config.verifier.verify credential) w (.error e) w') :
      TurnsDown c w username password (.ofVerificationError e)

namespace StandsAlone

variable {c : LoginCommand (Recording σ ε)} {handlers : List (LogoutHandler (Recording σ ε))}

/-- A scope finds out who is remembered, if nobody is bound yet. -/
theorem scope (hc : c.StandsAlone inv handlers) (hs : inv s) (ctx : RequestContext) :
    ∃ ctx' s', Yields (c.scope ctx) (s, log) (ctx', .ok ()) (s', log) ∧ inv s' ∧
      ctx'.sessionId = ctx.sessionId ∧
      (ctx.principal ≠ none → ctx'.principal = ctx.principal) ∧
      (ctx.principal = none → ∃ ctx₁,
        Yields (c.config.rememberMe.autoLogin ctx) (s, log) (ctx₁, ctx'.principal) (s', log)) := by
  have hrestore : Yields ((.perClient : SessionBinder (Recording σ ε)).restore ctx) (s, log)
      (ctx, .ok ()) (s, log) := .pure _ _
  cases hp : ctx.principal with
  | some p =>
    refine ⟨ctx, s, ?_, hs, rfl, fun _ => hp, by simp⟩
    exact scope_of_isSome hc.started hrestore (Option.isSome_of_eq_some hp)
  | none =>
    obtain ⟨⟨ctx₁, found⟩, s', hauto, hs', hctx₁⟩ := hc.rememberMe.autoLogin ctx s log hs
    cases found with
    | none =>
      refine ⟨ctx₁, s', ?_, hs', hctx₁.sessionId, by simp, fun _ => ⟨ctx₁, ?_⟩⟩
      · exact scope_of_none hc.started hrestore hp hauto
      · rwa [hctx₁.principal.trans hp]
    | some p =>
      refine ⟨ctx₁.bindPrincipal p, s', ?_, hs', hctx₁.sessionId, by simp, fun _ => ⟨ctx₁, hauto⟩⟩
      have hbind : Yields ((.perClient : SessionBinder (Recording σ ε)).bind ctx₁ p) (s', log)
          (ctx₁.bindPrincipal p, .ok ()) (s', log) := .pure _ _
      exact scope_of_some hc.started hrestore hp hauto hbind

/-- Nothing can go wrong once the verifier has agreed. -/
theorem complete (hc : c.StandsAlone inv handlers) (hs : inv s) (ctx : RequestContext)
    (p : Principal) :
    ∃ ctx' s', Yields ((c.authentication ⟨handlers, .perClient⟩).complete ctx p) (s, log)
        (ctx', .ok p) (s', log) ∧ inv s' ∧ (ctx.bindPrincipal p).SameLogin ctx' := by
  have hbind : Yields ((c.authentication ⟨handlers, .perClient⟩).bind ctx p) (s, log)
      (ctx.bindPrincipal p, .ok ()) (s, log) := by
    simp only [Authentication.bind, authentication, hc.strategy]
    rfl
  obtain ⟨ctx', s', hsuccess, hs', hctx'⟩ :=
    hc.rememberMe.loginSuccess (ctx.bindPrincipal p) p s log hs
  exact ⟨ctx', s', hbind.bind (hsuccess.bind (.pure _ _)), hs', hctx'⟩

theorem fail (hc : c.StandsAlone inv handlers) (hs : inv s) (ctx : RequestContext)
    (f : LoginFailure) :
    ∃ ctx' s', Yields ((c.authentication ⟨handlers, .perClient⟩).fail ctx f) (s, log)
        (ctx', .error f) (s', log) ∧ inv s' ∧ ctx.SameLogin ctx' := by
  obtain ⟨ctx', s', hfail, hs', hctx'⟩ := hc.rememberMe.loginFail ctx s log hs
  exact ⟨ctx', s', hfail.bind (.pure _ _), hs', hctx'⟩

/-- A login binds its principal, or it is turned down and leaves bound whoever was. -/
theorem run (hc : c.StandsAlone inv handlers) (hs : inv s) (ctx : RequestContext)
    (username password : String) :
    ∃ ctx' r s', Yields ((c.authentication ⟨handlers, .perClient⟩).run ctx username password)
        (s, log) (ctx', r) (s', log) ∧ inv s' ∧
      ((∃ p, r = .ok p ∧ (ctx.bindPrincipal p).SameLogin ctx') ∨
        ∃ f, r = .error f ∧ c.TurnsDown (s, log) username password f ∧ ctx.SameLogin ctx') := by
  rw [Authentication.run]
  cases hparse : Credential.parse username password with
  | error e =>
    obtain ⟨ctx', s', hfail, hs', hctx'⟩ := hc.fail hs ctx (.ofUsernameError e)
    exact ⟨ctx', _, s', hfail, hs', .inr ⟨_, rfl, .unnamed hparse, hctx'⟩⟩
  | ok credential =>
    obtain ⟨answer, s₁, hverify, hs₁, -⟩ := hc.verifier credential s log hs
    cases answer with
    | error e =>
      obtain ⟨ctx', s', hfail, hs', hctx'⟩ := hc.fail hs₁ ctx (.ofVerificationError e)
      exact ⟨ctx', _, s', hverify.bind hfail, hs',
        .inr ⟨_, rfl, .unverified hparse hverify, hctx'⟩⟩
    | ok identity =>
      obtain ⟨ctx', s', hcomplete, hs', hctx'⟩ := hc.complete hs₁ ctx (.ofIdentity identity)
      exact ⟨ctx', _, s', hverify.bind hcomplete, hs', .inl ⟨_, rfl, hctx'⟩⟩

theorem login (hc : c.StandsAlone inv handlers) (hs : inv s) (ctx : RequestContext)
    (username password : String) :
    ∃ ctx' r s', Yields (c.login ctx username password) (s, log) (ctx', r) (s', log) ∧ inv s' ∧
      ((∃ p, r = .ok p ∧ (ctx.bindPrincipal p).SameLogin ctx') ∨
        ∃ f, r = .error (.failed f) ∧ c.TurnsDown (s, log) username password f ∧
          ctx.SameLogin ctx') := by
  obtain ⟨ctx', r, s', hrun, hs', hends⟩ := hc.run hs ctx username password
  refine ⟨ctx', r.mapError .failed, s', ?_, hs', ?_⟩
  · simp only [LoginCommand.login, hc.started]
    exact hrun.bind (.pure _ _)
  · rcases hends with ⟨p, rfl, hctx'⟩ | ⟨f, rfl, hturned, hctx'⟩
    · exact .inl ⟨p, rfl, hctx'⟩
    · exact .inr ⟨f, rfl, hturned, hctx'⟩

/-- A logout succeeds and leaves nobody bound. -/
theorem logout (hc : c.StandsAlone inv handlers) (ctx : RequestContext)
    (given : Option Principal) (w : σ × List LoginCall) :
    ∃ ctx', Yields (c.logout ctx given) w (ctx', .ok ()) w ∧ ctx'.sessionId = ctx.sessionId ∧
      ctx'.principal = none := by
  obtain ⟨ctx', hrun, hctx'⟩ :=
    LogoutSequence.runHandlers_aloof hc.handlers (given <|> ctx.principal) ctx w
  refine ⟨ctx'.unbindPrincipal, ?_, hctx'.sessionId, rfl⟩
  simp only [LoginCommand.logout, hc.started]
  exact hrun.bind (.pure _ _)

end StandsAlone

end LoginCommand

/-! ### Operations one after the other -/

/-- What can be asked for a request, again and again. -/
inductive ContextStep where
  | scope
  | visit (step : VisitStep)

def ContextStep.request (ctx : RequestContext) : ContextStep → LoginRequest
  | scope => .scope ctx
  | visit step => step.request ctx

/-- An operation on a request, and what came of it. -/
structure ContextEvent (ω : Type) where
  step : ContextStep
  context : RequestContext
  before : ω
  outcome : LoginOutcome
  after : ω

namespace ContextEvent

/-- Operations of a command one after the other, each on the context that the one before it left. -/
inductive Handled (c : LoginCommand (StateT ω (Except ε))) :
    RequestContext → ω → List (ContextEvent ω) → Prop where
  | nil (ctx : RequestContext) (w : ω) : Handled c ctx w []
  | cons {e : ContextEvent ω} {events : List (ContextEvent ω)} :
      Yields (c.serve (e.step.request e.context)) e.before e.outcome e.after →
      Handled c e.outcome.context e.after events → Handled c e.context e.before (e :: events)

/-- The operation was a login that succeeded for this principal, or a scope of a request to which
nobody was bound, and this principal was remembered. -/
inductive Gives (c : LoginCommand (StateT ω (Except ε))) (p : Principal) :
    ContextEvent ω → Prop where
  | login {username password : String} {ctx ctx' : RequestContext} {w w' : ω} :
      Gives c p ⟨.visit (.login username password), ctx, w, .login (ctx', .ok p), w'⟩
  | restored {ctx ctx₁ : RequestContext} {w w₁ w' : ω} {out : LoginOutcome}
      (nobody : ctx.principal = none)
      (remembered : Yields (c.config.rememberMe.autoLogin ctx) w (ctx₁, some p) w₁) :
      Gives c p ⟨.scope, ctx, w, out, w'⟩

def LogsOut (e : ContextEvent ω) : Prop := ∃ given, e.step = .visit (.logout given)

/-- The last operation that gave anybody gave this principal, and there was no logout since. -/
def Remains (c : LoginCommand (StateT ω (Except ε))) (events : List (ContextEvent ω))
    (p : Principal) : Prop :=
  ∃ earlier e later, events = earlier ++ e :: later ∧ e.Gives c p ∧
    ∀ e' ∈ later, ¬e'.LogsOut ∧ ∀ q, ¬e'.Gives c q

/-- No failure of a store was reported: a scope and a logout succeed, and a login does unless it is
turned down. -/
inductive Untroubled (c : LoginCommand (StateT ω (Except ε))) : ContextEvent ω → Prop where
  | scoped {ctx ctx' : RequestContext} {w w' : ω} :
      Untroubled c ⟨.scope, ctx, w, .scope (ctx', .ok ()), w'⟩
  | admitted {username password : String} {ctx ctx' : RequestContext} {w w' : ω} {p : Principal} :
      Untroubled c ⟨.visit (.login username password), ctx, w, .login (ctx', .ok p), w'⟩
  | turnedDown {username password : String} {ctx ctx' : RequestContext} {w w' : ω}
      {f : LoginFailure} (turned : c.TurnsDown w username password f) :
      Untroubled c ⟨.visit (.login username password), ctx, w,
        .login (ctx', .error (.failed f)), w'⟩
  | loggedOut {given : Option Principal} {ctx ctx' : RequestContext} {w w' : ω} :
      Untroubled c ⟨.visit (.logout given), ctx, w, .logout (ctx', .ok ()), w'⟩

section

variable {c : LoginCommand (StateT ω (Except ε))} {ctx : RequestContext} {w w' : ω}
  {out : LoginOutcome} {p : Principal}

@[simp] theorem gives_scope : Gives c p ⟨.scope, ctx, w, out, w'⟩ ↔
    ctx.principal = none ∧
      ∃ ctx₁ w₁, Yields (c.config.rememberMe.autoLogin ctx) w (ctx₁, some p) w₁ := by
  constructor
  · intro h
    cases h with
    | restored nobody remembered => exact ⟨nobody, _, _, remembered⟩
  · rintro ⟨nobody, ctx₁, w₁, remembered⟩
    exact .restored nobody remembered

@[simp] theorem gives_login {username password : String} :
    Gives c p ⟨.visit (.login username password), ctx, w, out, w'⟩ ↔
      ∃ ctx', out = .login (ctx', .ok p) := by
  constructor
  · intro h
    cases h with
    | login => exact ⟨_, rfl⟩
  · rintro ⟨ctx', rfl⟩
    exact .login

@[simp] theorem not_gives_logout {given : Option Principal} :
    ¬Gives c p ⟨.visit (.logout given), ctx, w, out, w'⟩ := by
  intro h
  cases h

end

theorem remains_concat {c : LoginCommand (StateT ω (Except ε))} {events : List (ContextEvent ω)}
    {e : ContextEvent ω} {p : Principal} :
    Remains c (events ++ [e]) p ↔
      e.Gives c p ∨ (¬e.LogsOut ∧ ∀ q, ¬e.Gives c q) ∧ Remains c events p := by
  constructor
  · rintro ⟨earlier, e', later, heq, hgives, hlater⟩
    rcases later.eq_nil_or_concat with rfl | ⟨between, last, rfl⟩
    · obtain ⟨-, rfl⟩ := List.append_singleton_inj.1 heq
      exact .inl hgives
    · rw [List.concat_eq_append, ← List.cons_append, ← List.append_assoc] at heq
      obtain ⟨rfl, rfl⟩ := List.append_singleton_inj.1 heq
      refine .inr ⟨hlater e (by simp), earlier, e', between, rfl, hgives, fun e'' he => ?_⟩
      exact hlater e'' (by simp [he])
  · rintro (hgives | ⟨hlast, earlier, e', later, rfl, hgives, hlater⟩)
    · exact ⟨events, e, [], rfl, hgives, by simp⟩
    · refine ⟨earlier, e', later ++ [e], by simp, hgives, ?_⟩
      simp only [List.forall_mem_append, List.forall_mem_singleton]
      exact ⟨hlater, hlast⟩

/-- An operation that concerns the request alone: no store got into its way, the request belongs to
the session that it belonged to, and whoever is bound to it was given now or stayed. -/
structure Alone (c : LoginCommand (Recording σ ε)) (e : ContextEvent (σ × List LoginCall)) :
    Prop where
  untroubled : e.Untroubled c
  sessionId : e.outcome.context.sessionId = e.context.sessionId
  principal : ∀ p, e.outcome.context.principal = some p ↔
    e.Gives c p ∨ (¬e.LogsOut ∧ ∀ q, ¬e.Gives c q) ∧ e.context.principal = some p

variable {c : LoginCommand (Recording σ ε)} {handlers : List (LogoutHandler (Recording σ ε))}

theorem scope_alone (hc : c.StandsAlone inv handlers) (hs : inv s) (ctx : RequestContext) :
    ∃ out s', Yields (c.serve (.scope ctx)) (s, log) out (s', log) ∧ inv s' ∧
      Alone c ⟨.scope, ctx, (s, log), out, (s', log)⟩ := by
  obtain ⟨ctx', s', hscope, hs', hid, hkeeps, hfinds⟩ := hc.scope hs ctx
  refine ⟨.scope (ctx', .ok ()), s', hscope.bind (.pure _ _), hs', .scoped, hid, fun p => ?_⟩
  by_cases hp : ctx.principal = none
  · obtain ⟨ctx₁, hauto⟩ := hfinds hp
    have hfound : ctx'.principal = some p ↔
        ∃ ctx₁ w₁, Yields (c.config.rememberMe.autoLogin ctx) (s, log) (ctx₁, some p) w₁ := by
      constructor
      · intro hbound
        rw [hbound] at hauto
        exact ⟨ctx₁, _, hauto⟩
      · rintro ⟨ctx₂, w₂, hauto₂⟩
        exact (Prod.mk.inj (hauto.eq hauto₂).1).2
    simp [LoginOutcome.context, hp, hfound]
  · simp [LoginOutcome.context, hp, hkeeps hp, LogsOut]

theorem login_alone (hc : c.StandsAlone inv handlers) (hs : inv s) (ctx : RequestContext)
    (username password : String) :
    ∃ out s', Yields (c.serve (.login ctx username password)) (s, log) out (s', log) ∧ inv s' ∧
      Alone c ⟨.visit (.login username password), ctx, (s, log), out, (s', log)⟩ := by
  obtain ⟨ctx', r, s', hlogin, hs', hends⟩ := hc.login hs ctx username password
  refine ⟨.login (ctx', r), s', hlogin.bind (.pure _ _), hs', ?_⟩
  rcases hends with ⟨p, rfl, hctx'⟩ | ⟨f, rfl, hturned, hctx'⟩
  · have hbound : ctx'.principal = some p := hctx'.principal
    exact ⟨.admitted, hctx'.sessionId, fun q => by simp [LoginOutcome.context, hbound]⟩
  · refine ⟨.turnedDown hturned, hctx'.sessionId, fun q => ?_⟩
    simp [LoginOutcome.context, hctx'.principal, LogsOut]

theorem logout_alone (hc : c.StandsAlone inv handlers) (ctx : RequestContext)
    (given : Option Principal) (w : σ × List LoginCall) :
    ∃ out, Yields (c.serve (.logout ctx given)) w out w ∧
      Alone c ⟨.visit (.logout given), ctx, w, out, w⟩ := by
  obtain ⟨ctx', hlogout, hid, hp⟩ := hc.logout ctx given w
  refine ⟨.logout (ctx', .ok ()), hlogout.bind (.pure _ _), .loggedOut, hid, fun p => ?_⟩
  simp [LoginOutcome.context, hp, LogsOut]

theorem serve_alone (hc : c.StandsAlone inv handlers) (hs : inv s) (log : List LoginCall)
    (ctx : RequestContext) (step : ContextStep) :
    ∃ out s', Yields (c.serve (step.request ctx)) (s, log) out (s', log) ∧ inv s' ∧
      Alone c ⟨step, ctx, (s, log), out, (s', log)⟩ := by
  rcases step with _ | ⟨username, password⟩ | given
  · exact scope_alone hc hs ctx
  · exact login_alone hc hs ctx username password
  · obtain ⟨out, hlogout, halone⟩ := logout_alone hc ctx given (s, log)
    exact ⟨out, s, hlogout, hs, halone⟩

/-- All of the operations are carried out, and no session is touched by any of them. -/
theorem exists_handled (hc : c.StandsAlone inv handlers) (steps : List ContextStep) (hs : inv s)
    (log : List LoginCall) (ctx : RequestContext) :
    ∃ events, Handled c ctx (s, log) events ∧ events.map step = steps ∧
      ∀ e ∈ events, Alone c e ∧ e.after.2 = log ∧
        e.outcome.context.sessionId = ctx.sessionId := by
  induction steps generalizing ctx s with
  | nil => exact ⟨[], .nil ctx _, rfl, by simp⟩
  | cons step rest ih =>
    obtain ⟨out, s', hserve, hs', halone⟩ := serve_alone hc hs log ctx step
    obtain ⟨events, hhandled, hmap, hall⟩ := ih hs' out.context
    refine ⟨⟨step, ctx, (s, log), out, (s', log)⟩ :: events,
      .cons (e := ⟨step, ctx, (s, log), out, (s', log)⟩) hserve hhandled,
      by rw [List.map_cons, hmap], ?_⟩
    rw [List.forall_mem_cons]
    refine ⟨⟨halone, rfl, halone.sessionId⟩, fun e he => ?_⟩
    obtain ⟨he₁, he₂, hid⟩ := hall e he
    exact ⟨he₁, he₂, hid.trans halone.sessionId⟩

/-- If whoever is bound before the operations is the one that remains from the past, then whoever is
bound after one of them is the one that remains from the past and the operations so far. -/
theorem Handled.principal_iff {w : σ × List LoginCall} {ctx : RequestContext}
    {events : List (ContextEvent (σ × List LoginCall))} (h : Handled c ctx w events)
    (hall : ∀ e ∈ events, Alone c e) {past : List (ContextEvent (σ × List LoginCall))}
    (hpast : ∀ p, ctx.principal = some p ↔ Remains c past p)
    {earlier later : List (ContextEvent (σ × List LoginCall))}
    {e : ContextEvent (σ × List LoginCall)} (heq : events = earlier ++ e :: later)
    (p : Principal) :
    e.outcome.context.principal = some p ↔ Remains c (past ++ earlier ++ [e]) p := by
  -- Along the operations; each of them makes the past one longer.
  induction h generalizing past earlier with
  | nil => simp at heq
  | @cons e₀ events hserve hrest ih =>
    obtain ⟨hfirst, hall⟩ := List.forall_mem_cons.1 hall
    have hnext (p : Principal) :
        e₀.outcome.context.principal = some p ↔ Remains c (past ++ [e₀]) p := by
      rw [hfirst.principal p, remains_concat, hpast p]
    cases earlier with
    | nil =>
      obtain ⟨rfl, -⟩ := List.cons.inj heq
      rw [List.append_nil]
      exact hnext p
    | cons e₁ earlier =>
      obtain ⟨rfl, htail⟩ := List.cons.inj heq
      rw [ih hall hnext htail, List.append_assoc past, List.singleton_append]

end ContextEvent

namespace LoginCommand

open ContextEvent

variable {c : LoginCommand (Recording σ ε)}

/-- A command in per-client mode, whatever its store is, gets a request to which nobody is bound,
and any operations on it one after the other. All of them are carried out, and after each of them:
no failure of a store was reported; nothing was written down, so the store was not called if it is
one that writes its calls down; the request belongs to the session that it came with; and the
principal bound to it is the one given by the last login that succeeded or the last scope that
somebody was remembered in, if there was no logout since. -/
theorem perClient_principal (hc : c.PerClient inv) (hs : inv s) {ctx : RequestContext}
    (hctx : ctx.principal = none) (steps : List ContextStep) (log : List LoginCall) :
    ∃ events, Handled c ctx (s, log) events ∧ events.map ContextEvent.step = steps ∧
      ∀ earlier e later, events = earlier ++ e :: later →
        e.Untroubled c ∧ e.after.2 = log ∧ e.outcome.context.sessionId = ctx.sessionId ∧
        ∀ p, e.outcome.context.principal = some p ↔ Remains c (earlier ++ [e]) p := by
  obtain ⟨handlers, halone⟩ := hc.standsAlone
  obtain ⟨events, hhandled, hmap, hall⟩ := exists_handled halone steps hs log ctx
  have hnobody (p : Principal) : ctx.principal = some p ↔ Remains c [] p := by
    simp [hctx, Remains]
  refine ⟨events, hhandled, hmap, fun earlier e later heq => ?_⟩
  obtain ⟨he, hlog, hid⟩ := hall e (by simp [heq])
  exact ⟨he.untroubled, hlog, hid,
    hhandled.principal_iff (fun e he => (hall e he).1) hnobody heq⟩

/-- Whoever gives a name is let in. -/
def credulous : Verifier (Recording Unit Empty) where
  verify credential := return .ok ⟨credential.username.text, .empty⟩

theorem quiet_credulous : credulous.Quiet fun _ => True :=
  fun _ => .pure trivial

/-- Everybody is let in, and sessions are kept in a store that is out of order and writes down its
calls. -/
def detachedConfig : LoginConfig (Recording Unit Empty) where
  verifier := credulous
  store := some SessionStore.broken.recorded
  strategy := .null
  rememberMe := .null
  handlers := none
  mode := .perClient
  invalidateSession := true

def detached : LoginCommand (Recording Unit Empty) :=
  { config := detachedConfig, started := some ⟨handlersOf detachedConfig, .perClient⟩ }

/-- Settings in per-client mode that remember logins and ask a database for users. -/
def detachedSettings : Settings where
  login := { mode := .perClient, invalidateSession := true, clearCookies := ["cart"] }
  session := { cookieName := "SESSION", ttlSeconds := 60, backend := .memory }
  rememberMe :=
    { enabled := true, cookieName := "remember-me", secret := "secret", ttlSeconds := 60 }
  redisHostName := ""
  postgresUrl := ""
  verifier := { backend := .postgres, users := [] }
  server := { address := "", allowedOrigins := [] }

/-- A service with the same users and the same store. -/
def detachedResources : Resources (Recording Unit Empty) where
  clock := pure ⟨0⟩
  salt := pure []
  memoryStore _ := pure SessionStore.broken.recorded
  redisStore _ _ := pure (.ok SessionStore.broken.recorded)
  database _ := pure (.ok credulous)

/-- The command of that service. -/
def detachedService : LoginCommand (Recording Unit Empty) where
  config := Deployment.loginConfig detachedSettings detachedResources.clock
    SessionStore.broken.recorded credulous
  started :=
    some ⟨Deployment.logoutHandlers detachedSettings SessionStore.broken.recorded, .perClient⟩

theorem perClient_detachedService : detachedService.PerClient fun _ => True := by
  have hstart : Yields (Deployment.start detachedResources detachedSettings).run ((), [])
      (.ok detachedService) ((), []) := by
    rfl
  refine .deployed hstart rfl (.pure trivial) ?_
  intro url w verifier w' hopened
  obtain rfl := Except.ok.inj (hopened.eq (.pure _ _)).1
  exact quiet_credulous

/-- Two scopes, with a login between them, and a logout. -/
def detachedSteps : List ContextStep :=
  [.scope, .visit (.login "alice" "1234"), .scope, .visit (.logout none)]

/-- For a request that comes with a session, the store is not called, whether the command was set up
by hand or is that of a service. -/
theorem perClient_uncalled :
    (∃ events, Handled detached returning ((), []) events ∧
      events.map ContextEvent.step = detachedSteps ∧
      ∀ e ∈ events, e.Untroubled detached ∧ e.after.2 = []) ∧
    ∃ events, Handled detachedService returning ((), []) events ∧
      events.map ContextEvent.step = detachedSteps ∧
      ∀ e ∈ events, e.Untroubled detachedService ∧ e.after.2 = [] := by
  have hdetached : detached.PerClient fun _ => True :=
    .usual (show start.run ⟨detachedConfig, none⟩ = .ok () detached from rfl) rfl rfl rfl
      quiet_credulous RememberMe.quiet_null
  have hnobody : returning.principal = none := rfl
  have huncalled {c : LoginCommand (Recording Unit Empty)} (hc : c.PerClient fun _ => True) :
      ∃ events, Handled c returning ((), []) events ∧
        events.map ContextEvent.step = detachedSteps ∧
        ∀ e ∈ events, e.Untroubled c ∧ e.after.2 = [] := by
    obtain ⟨events, hhandled, hmap, hall⟩ :=
      perClient_principal hc (s := ()) trivial hnobody detachedSteps []
    refine ⟨events, hhandled, hmap, fun e he => ?_⟩
    obtain ⟨earlier, later, heq⟩ := List.append_of_mem he
    exact ⟨(hall earlier e later heq).1, (hall earlier e later heq).2.1⟩
  exact ⟨huncalled hdetached, huncalled perClient_detachedService⟩

end LoginCommand

end WebLogin
