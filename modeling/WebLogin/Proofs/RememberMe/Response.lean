/-
The cookie of remember-me on the response.

Remember-me is told last of a login, however that ends, and it is one of the handlers of a logout.
So whatever stood under its name before, the last of these operations decides what is queued: the
token of a login, or a removal. Before the first of them only a token that was not accepted has left
a removal.

* `LogoutHandler.Spares` — a handler that has nothing to do with a cookie;
* `RememberMeConfig.scope_queues`, `login_queues`, `logout_queues` — what each operation queues;
* `RememberMeConfig.visit_queues` — any operations one after the other.
-/
import WebLogin.Proofs.Login.Protocol
import WebLogin.Proofs.Login.Scoping
import WebLogin.Proofs.Login.Sync
import WebLogin.Proofs.Logout.Chain
import WebLogin.Proofs.RememberMe.Cookie

namespace WebLogin

variable {σ ε : Type} {inv : σ → Prop} {s s₁ : σ}

theorem RequestContext.SameCookies.queued_eq {ctx ctx' : RequestContext} (h : ctx.SameCookies ctx')
    (name : String) : RequestContext.queued ctx' name = RequestContext.queued ctx name := by
  rw [RequestContext.queued, RequestContext.queued, h.queued]

/-- A handler that leaves the queued cookies of a name as they are. -/
def LogoutHandler.Spares (name : String) (h : LogoutHandler (StateT σ (Except ε))) : Prop :=
  ∀ {ctx p s ctx' r s'}, Yields (h.cleanup ctx p) s (ctx', r) s' →
    ctx'.queued name = ctx.queued name

namespace LogoutHandler

variable {name : String}

theorem spares_cookieClearing {names : List String} (h : name ∉ names) :
    (cookieClearing names : LogoutHandler (StateT σ (Except ε))).Spares name := by
  intro ctx p s ctx' r s' hrun
  obtain ⟨rfl, -⟩ := Prod.mk.inj (hrun.eq (.pure _ _)).1
  exact RequestContext.queued_foldl h ctx

theorem spares_securityContext (store : Option (SessionStore (StateT σ (Except ε)))) (ends : Bool) :
    (securityContext store ends).Spares name := by
  intro ctx p s ctx' r s' hrun
  rw [securityContext] at hrun
  dsimp only at hrun
  split at hrun
  · obtain ⟨result, s₁, -, hrest⟩ := Yields.of_bind hrun
    obtain ⟨rfl, -⟩ := Prod.mk.inj (hrest.eq (.pure _ _)).1
    rfl
  · obtain ⟨rfl, -⟩ := Prod.mk.inj (hrun.eq (.pure _ _)).1
    rfl

end LogoutHandler

namespace RememberMeConfig

variable {rc : RememberMeConfig} {clock : StateT σ (Except ε) Timestamp}
  {c : LoginCommand (StateT σ (Except ε))} {ctx ctx₁ : RequestContext}

/-! ### What decides -/

/-- The cookie is kept for the time to live, and the token in it is valid, from the moment that the
clock showed when it was issued, for that time and a minute more. It stands for this principal. -/
structure Admits (rc : RememberMeConfig) (clock : StateT σ (Except ε) Timestamp) (p : Principal)
    (cookie : ResponseCookie) : Prop where
  kept : cookie.isRemoval = false
  age : cookie.maxAge = some rc.ttl
  token : ∃ s now s', Yields clock s now s' ∧ ∀ later : Timestamp,
    later.seconds ≤ now.seconds + rc.ttl + 60 →
      ∃ claims, Token.verify rc.secret later cookie.value = .ok claims ∧ claims.principal = p

/-- What is queued after a login or a logout, and why. -/
inductive Reflects (rc : RememberMeConfig) (clock : StateT σ (Except ε) Timestamp) :
    VisitStep → LoginOutcome → Prop where
  | remembered {username password : String} {ctx : RequestContext} {p : Principal}
      {cookie : ResponseCookie} (queued : ctx.queued rc.cookieName = [cookie])
      (admits : rc.Admits clock p cookie) :
      Reflects rc clock (.login username password) (.login (ctx, .ok p))
  | failed {username password : String} {ctx : RequestContext} {e : LoginError}
      (queued : ctx.queued rc.cookieName = [.removal rc.cookieName]) :
      Reflects rc clock (.login username password) (.login (ctx, .error e))
  | loggedOut {given : Option Principal} {ctx : RequestContext} {r : Except LogoutError Unit}
      (queued : ctx.queued rc.cookieName = [.removal rc.cookieName]) :
      Reflects rc clock (.logout given) (.logout (ctx, r))

/-- Remember-me was asked about a request whose token was not valid at the moment of its answer. -/
def Rejects (rc : RememberMeConfig) (call : LoginCall) : Prop :=
  ∃ ctx token now e, call = .autoLogin ctx (rc.autoLogin now ctx) ∧
    ctx.requestCookie? rc.cookieName = some token ∧ Token.verify rc.secret now token = .error e

/-- A started command that remembers logins by tokens and removes the cookie at a logout. Tokens can
be issued at any time. The handlers that come after that of remember-me spare its cookie; the ones
before it, the verifier, the strategy and the store may do what they like. -/
structure Governs (rc : RememberMeConfig) (clock : StateT σ (Except ε) Timestamp) (inv : σ → Prop)
    (before after : List (LogoutHandler (StateT σ (Except ε))))
    (b : SessionBinder (StateT σ (Except ε))) (c : LoginCommand (StateT σ (Except ε))) : Prop where
  started : c.started = some ⟨before ++ rc.handler :: after, b⟩
  rememberMe : c.config.rememberMe = rc.service clock
  positive : 0 < rc.ttl
  clock : ∀ s, inv s → ∃ now last s', Yields clock s now s' ∧ inv s' ∧
    Token.expiry now rc.ttl = .ok last
  spares : ∀ h ∈ after, h.Spares rc.cookieName
  handlers : ∀ h ∈ before ++ after, ∀ ctx p, Responds inv (h.cleanup ctx p)
  verifier : ∀ credential, Responds inv (c.config.verifier.verify credential)
  binder : b.Responds inv
  strategy : ∀ ctx p, Responds inv (c.config.strategy.onAuthentication ctx p)

variable {before after : List (LogoutHandler (StateT σ (Except ε)))}
  {b : SessionBinder (StateT σ (Except ε))}

theorem admits_tokenCookie {p : Principal} {now : Timestamp} {last : Nat} {s s' : σ}
    (hclock : Yields clock s now s') (hlast : Token.expiry now rc.ttl = .ok last)
    (hpositive : 0 < rc.ttl) : rc.Admits clock p (rc.tokenCookie p last) where
  kept := by
    simp only [ResponseCookie.isRemoval, tokenCookie, beq_eq_false_iff_ne, ne_eq,
      Option.some.injEq]
    omega
  age := rfl
  token := by
    refine ⟨s, now, s', hclock, fun later hlater => ?_⟩
    have hvalid : later.seconds ≤ last + Token.leeway := by
      rw [(Token.expiry_spec hlast).1, Token.leeway]
      omega
    refine ⟨Token.claimsOf p last, ?_, Token.principal_claimsOf p last⟩
    rw [tokenCookie, Token.verify_issued rc.secret p hlast later, if_pos hvalid]

/-! ### A login -/

namespace Governs

theorem loginSuccess_tells (hc : rc.Governs clock inv before after b c) (ctx : RequestContext)
    (p : Principal) :
    Tells inv (fun _ ctx' => ∃ cookie, ctx'.queued rc.cookieName = [cookie] ∧
        rc.Admits clock p cookie)
      (c.config.rememberMe.loginSuccess ctx p)
      (c.config.rememberMe.recorded.loginSuccess ctx p) := by
  intro s hs
  obtain ⟨now, last, s', hnow, hs', hlast⟩ := hc.clock s hs
  have hsuccess : Yields (c.config.rememberMe.loginSuccess ctx p) s (rc.loginSuccess now ctx p)
      s' := by
    rw [hc.rememberMe]
    exact hnow.bind (.pure _ _)
  exact ⟨_, _, s', .record hsuccess, hs', rc.tokenCookie p last, queued_loginSuccess hlast ctx p,
    admits_tokenCookie hnow hlast hc.positive⟩

theorem loginFail_tells (hc : rc.Governs clock inv before after b c) (ctx : RequestContext) :
    Tells inv (fun _ ctx' => ctx'.queued rc.cookieName = [.removal rc.cookieName])
      (c.config.rememberMe.loginFail ctx) (c.config.rememberMe.recorded.loginFail ctx) := by
  intro s hs
  have hfail : Yields (c.config.rememberMe.loginFail ctx) s (rc.clearCookie ctx) s := by
    rw [hc.rememberMe]
    exact .pure _ _
  exact ⟨_, _, s, .record hfail, hs, rc.queued_clearCookie ctx⟩

/-- What a login leaves queued. -/
def LoginQueues (rc : RememberMeConfig) (clock : StateT σ (Except ε) Timestamp)
    (step : Step LoginFailure Principal) : Prop :=
  match step.2 with
  | .ok p => ∃ cookie, step.1.queued rc.cookieName = [cookie] ∧ rc.Admits clock p cookie
  | .error _ => step.1.queued rc.cookieName = [.removal rc.cookieName]

variable {handlers : List (LogoutHandler (StateT σ (Except ε)))}

theorem fail_tells (hc : rc.Governs clock inv before after b c) (ctx : RequestContext)
    (f : LoginFailure) :
    Tells inv (fun _ step => LoginQueues rc clock step)
      ((c.authentication ⟨handlers, b⟩).fail ctx f)
      ((c.authentication ⟨handlers, b⟩).recorded.fail ctx f) :=
  (hc.loginFail_tells ctx).bind fun _ _ hqueued => .pure hqueued

theorem bind_tells (hc : rc.Governs clock inv before after b c) (ctx : RequestContext)
    (p : Principal) :
    Tells inv (fun _ _ => True) ((c.authentication ⟨handlers, b⟩).bind ctx p)
      ((c.authentication ⟨handlers, b⟩).recorded.bind ctx p) := by
  refine (SessionBinder.bind_tells hc.binder ctx p).bind ?_
  rintro calls ⟨ctx₁, r⟩ -
  cases r with
  | error e => exact .pure trivial
  | ok u => exact .ask (hc.strategy ctx₁ p) fun _ _ _ _ => .pure trivial

/-- Whatever came of binding the principal, remember-me is told last. -/
theorem complete_tells (hc : rc.Governs clock inv before after b c) (ctx : RequestContext)
    (p : Principal) :
    Tells inv (fun _ step => LoginQueues rc clock step)
      ((c.authentication ⟨handlers, b⟩).complete ctx p)
      ((c.authentication ⟨handlers, b⟩).recorded.complete ctx p) := by
  refine (hc.bind_tells ctx p).bind ?_
  rintro calls ⟨ctx₁, r⟩ -
  cases r with
  | ok u => exact (hc.loginSuccess_tells ctx₁ p).bind fun _ _ hqueued => .pure hqueued
  | error f =>
    refine (SessionBinder.unbind_tells hc.binder ctx₁).bind ?_
    rintro calls' ⟨ctx₂, taken⟩ -
    exact hc.fail_tells ctx₂ f

theorem run_tells (hc : rc.Governs clock inv before after b c) (ctx : RequestContext)
    (username password : String) :
    Tells inv (fun _ step => LoginQueues rc clock step)
      ((c.authentication ⟨handlers, b⟩).run ctx username password)
      ((c.authentication ⟨handlers, b⟩).recorded.run ctx username password) := by
  rw [Authentication.run, Authentication.run]
  cases Credential.parse username password with
  | error e => exact hc.fail_tells ctx _
  | ok credential =>
    refine .ask (hc.verifier credential) ?_
    intro answer _ _ _
    cases answer with
    | error e => exact hc.fail_tells ctx _
    | ok identity => exact hc.complete_tells ctx _

end Governs

/-- A login that succeeds leaves a token for its principal, and one that fails a removal. -/
theorem login_queues (hc : rc.Governs clock inv before after b c) (ctx : RequestContext)
    (username password : String) (hs : inv s) :
    ∃ step s', Yields (c.login ctx username password) s step s' ∧ inv s' ∧
      rc.Reflects clock (.login username password) (.login step) := by
  obtain ⟨calls, ⟨ctx', r⟩, s', hmakes, hs', hqueues⟩ := hc.run_tells ctx username password s hs
  refine ⟨(ctx', r.mapError .failed), s', ?_, hs', ?_⟩
  · simp only [LoginCommand.login, hc.started]
    exact hmakes.yields.bind (.pure _ _)
  · cases r with
    | ok p =>
      obtain ⟨cookie, hqueued, hadmits⟩ := hqueues
      exact .remembered hqueued hadmits
    | error f => exact .failed hqueues

/-! ### A logout -/

end RememberMeConfig

namespace LogoutSequence

variable {handlers before after : List (LogoutHandler (StateT σ (Except ε)))}
  {p : Option Principal} {ctx ctx' : RequestContext} {calls : List LoginCall} {s' : σ}

/-- Handlers that spare a cookie do so one after the other. -/
theorem CleansUp.spares {name : String} (h : CleansUp p handlers ctx s calls ctx' s')
    (hall : ∀ handler ∈ handlers, handler.Spares name) : ctx'.queued name = ctx.queued name := by
  induction h with
  | nil ctx s => rfl
  | cons hcleanup _ ih =>
    obtain ⟨hfirst, hrest⟩ := List.forall_mem_cons.1 hall
    exact (ih hrest).trans (hfirst hcleanup)

/-- The handler of remember-me decides, whatever the handlers before it do. -/
theorem CleansUp.queued {rc : RememberMeConfig}
    (h : CleansUp p (before ++ rc.handler :: after) ctx s calls ctx' s')
    (hafter : ∀ handler ∈ after, handler.Spares rc.cookieName) :
    ctx'.queued rc.cookieName = [.removal rc.cookieName] := by
  induction before generalizing ctx s calls with
  | nil =>
    cases h with
    | cons hcleanup hrest =>
      obtain ⟨rfl, -⟩ := Prod.mk.inj (hcleanup.eq (.pure _ _)).1
      exact (hrest.spares hafter).trans (rc.queued_clearCookie ctx)
  | cons handler before ih =>
    cases h with
    | cons _ hrest => exact ih hrest

end LogoutSequence

namespace RememberMeConfig

variable {rc : RememberMeConfig} {clock : StateT σ (Except ε) Timestamp}
  {c : LoginCommand (StateT σ (Except ε))} {ctx ctx₁ : RequestContext}
  {before after : List (LogoutHandler (StateT σ (Except ε)))}
  {b : SessionBinder (StateT σ (Except ε))}

/-- A logout leaves a removal, however it ends. -/
theorem logout_queues (hc : rc.Governs clock inv before after b c) (ctx : RequestContext)
    (given : Option Principal) (hs : inv s) :
    ∃ step s', Yields (c.logout ctx given) s step s' ∧ inv s' ∧
      rc.Reflects clock (.logout given) (.logout step) := by
  have hresponds : ∀ handler ∈ before ++ rc.handler :: after, ∀ ctx p,
      Responds inv (handler.cleanup ctx p) := by
    intro handler hmem ctx p
    rcases List.mem_append.1 hmem with hmem | hmem
    · exact hc.handlers handler (List.mem_append_left _ hmem) ctx p
    · rcases List.mem_cons.1 hmem with rfl | hmem
      · exact fun s hs => ⟨_, s, .pure _ s, hs⟩
      · exact hc.handlers handler (List.mem_append_right _ hmem) ctx p
  obtain ⟨calls, ctx₁, s₁, hmakes, hs₁, hcleans⟩ := LogoutSequence.runHandlers_cleansUp
    (given <|> ctx.principal) (fun h hmem ctx => hresponds h hmem ctx _) ctx hs
  obtain ⟨calls', ⟨ctx₂, taken⟩, s', hunbind, hs', -, hctx₂⟩ :=
    SessionBinder.unbind_tells hc.binder ctx₁ s₁ hs₁
  obtain rfl : ctx₂ = ctx₁.unbindPrincipal := hctx₂
  have hlogout : ∃ r, Yields (c.logout ctx given) s (ctx₁.unbindPrincipal, r) s' := by
    simp only [LoginCommand.logout, hc.started]
    exact ⟨_, hmakes.yields.bind (hunbind.yields.bind (.pure _ _))⟩
  obtain ⟨r, hlogout⟩ := hlogout
  exact ⟨_, s', hlogout, hs', .loggedOut (hcleans.queued hc.spares)⟩

/-! ### A scope -/

theorem not_rejects_of_hooks {calls : List LoginCall} (h : hooks calls = []) :
    ∀ call ∈ calls, ¬rc.Rejects call := by
  rintro _ hcall ⟨ctx, token, now, e, rfl, -, -⟩
  exact not_mem_of_hooks h rfl hcall

/-- Some calls were made for a request, and the cookie is removed if one of them is about a token
that is not valid. -/
structure ScopeQueues (rc : RememberMeConfig) (ctx : RequestContext) (calls : List LoginCall)
    (ctx' : RequestContext) : Prop where
  rejected : (∃ call ∈ calls, rc.Rejects call) →
    ctx'.queued rc.cookieName = [.removal rc.cookieName]
  spared : (∀ call ∈ calls, ¬rc.Rejects call) →
    ctx'.queued rc.cookieName = ctx.queued rc.cookieName

theorem ScopeQueues.of_hooks {calls : List LoginCall} (h : hooks calls = []) {ctx' : RequestContext}
    (hctx : ctx.SameCookies ctx') : rc.ScopeQueues ctx calls ctx' := by
  refine ⟨?_, fun _ => hctx.queued_eq rc.cookieName⟩
  rintro ⟨call, hcall, hrejects⟩
  exact absurd hrejects (not_rejects_of_hooks h call hcall)

/-- Calls that were made in two parts, the first of which left the cookies alone. -/
theorem ScopeQueues.of_then {calls calls' : List LoginCall} {ctx₁ ctx' : RequestContext}
    (hcalls : hooks calls = []) (hctx : ctx.SameCookies ctx₁)
    (h : rc.ScopeQueues ctx₁ calls' ctx') : rc.ScopeQueues ctx (calls ++ calls') ctx' := by
  have hnone : ∀ call ∈ calls, ¬rc.Rejects call := not_rejects_of_hooks hcalls
  constructor
  · rintro ⟨call, hcall, hrejects⟩
    rcases List.mem_append.1 hcall with hcall | hcall
    · exact absurd hrejects (hnone call hcall)
    · exact h.rejected ⟨call, hcall, hrejects⟩
  · intro hcalls
    rw [h.spared fun call hcall => hcalls call (List.mem_append_right calls hcall),
      hctx.queued_eq rc.cookieName]

/-- The same if the second part left them alone. -/
theorem ScopeQueues.then {calls calls' : List LoginCall} {ctx₁ ctx' : RequestContext}
    (h : rc.ScopeQueues ctx calls ctx₁) (hcalls : hooks calls' = [])
    (hctx : ctx₁.SameCookies ctx') : rc.ScopeQueues ctx (calls ++ calls') ctx' := by
  have hnone : ∀ call ∈ calls', ¬rc.Rejects call := not_rejects_of_hooks hcalls
  constructor
  · rintro ⟨call, hcall, hrejects⟩
    rcases List.mem_append.1 hcall with hcall | hcall
    · exact (hctx.queued_eq rc.cookieName).trans (h.rejected ⟨call, hcall, hrejects⟩)
    · exact absurd hrejects (hnone call hcall)
  · intro hcalls
    exact (hctx.queued_eq rc.cookieName).trans
      (h.spared fun call hcall => hcalls call (List.mem_append_left calls' hcall))

/-- Asked about a request, the service removes the cookie if the token is not valid. -/
theorem scopeQueues_autoLogin (rc : RememberMeConfig) (now : Timestamp) (ctx : RequestContext) :
    rc.ScopeQueues ctx [.autoLogin ctx (rc.autoLogin now ctx)] (rc.autoLogin now ctx).1 := by
  cases hbrought : ctx.requestCookie? rc.cookieName with
  | none =>
    have hnothing : rc.autoLogin now ctx = (ctx, none) := by rw [autoLogin, hbrought]
    rw [hnothing]
    refine ⟨?_, fun _ => rfl⟩
    rintro ⟨call, hcall, ctx', token, now', e, hasked, hbrought', -⟩
    obtain rfl := List.mem_singleton.1 hcall
    obtain ⟨rfl, -⟩ := LoginCall.autoLogin.inj hasked
    rw [hbrought] at hbrought'
    cases hbrought'
  | some token =>
    cases hverify : Token.verify rc.secret now token with
    | ok claims =>
      rw [autoLogin_of_ok hbrought hverify]
      refine ⟨?_, fun _ => rfl⟩
      rintro ⟨call, hcall, ctx', token', now', e, hasked, hbrought', hinvalid⟩
      obtain rfl := List.mem_singleton.1 hcall
      obtain ⟨rfl, hanswer⟩ := LoginCall.autoLogin.inj hasked
      -- A token that is not valid gets another answer.
      rw [autoLogin_of_error hbrought' hinvalid] at hanswer
      cases (Prod.mk.inj hanswer).2
    | error e =>
      refine ⟨fun _ => ?_, fun hnone => ?_⟩
      · rw [autoLogin_of_error hbrought hverify]
        exact rc.queued_clearCookie ctx
      · exact absurd ⟨ctx, token, now, e, rfl, hbrought, hverify⟩
          (hnone _ (List.mem_singleton_self _))

theorem Governs.autoLogin_tells (hc : rc.Governs clock inv before after b c)
    (ctx : RequestContext) :
    Tells inv (fun calls answer => rc.ScopeQueues ctx calls answer.1)
      (c.config.rememberMe.autoLogin ctx) (c.config.rememberMe.recorded.autoLogin ctx) := by
  intro s hs
  obtain ⟨now, last, s', hnow, hs', -⟩ := hc.clock s hs
  have hauto : Yields (c.config.rememberMe.autoLogin ctx) s (rc.autoLogin now ctx) s' := by
    rw [hc.rememberMe]
    exact hnow.bind (.pure _ _)
  exact ⟨_, _, s', .record hauto, hs', rc.scopeQueues_autoLogin now ctx⟩

/-- A scope removes the cookie if it was asked about a token that is not valid, and leaves what is
queued under its name alone otherwise. -/
theorem scope_queues (hc : rc.Governs clock inv before after b c) (ctx : RequestContext) :
    Tells inv (fun calls step => rc.ScopeQueues ctx calls step.1) (c.scope ctx)
      (c.recorded.scope ctx) := by
  rw [LoginCommand.scope, LoginCommand.scope, hc.started,
    LoginCommand.recorded_started hc.started]
  refine (SessionBinder.restore_tells hc.binder ctx).bind ?_
  rintro calls ⟨ctx₁, restored⟩ ⟨houtcome, hctx₁⟩
  have hcalls := houtcome.hooks_eq_nil
  cases restored with
  | error e => exact .pure (by simpa using ScopeQueues.of_hooks hcalls hctx₁)
  | ok u =>
    dsimp only
    split
    · exact .pure (by simpa using ScopeQueues.of_hooks hcalls hctx₁)
    · refine (hc.autoLogin_tells ctx₁).bind ?_
      rintro calls' ⟨ctx₂, remembered⟩ hasked
      cases remembered with
      | none => exact .pure (by simpa using hasked.of_then hcalls hctx₁)
      | some p =>
        refine (SessionBinder.bind_tells hc.binder ctx₂ p).bind ?_
        rintro calls'' ⟨ctx₃, bound⟩ ⟨hcalled, -, hctx₃, -⟩
        exact .pure (by simpa using (hasked.then hcalled.hooks_eq_nil hctx₃).of_then hcalls hctx₁)

/-! ### A whole visit -/

theorem serve_queues (hc : rc.Governs clock inv before after b c) (ctx : RequestContext)
    (step : VisitStep) (hs : inv s) :
    ∃ out s', Yields (c.serve (step.request ctx)) s out s' ∧ inv s' ∧
      rc.Reflects clock step out := by
  cases step with
  | login username password =>
    obtain ⟨step, s', hlogin, hs', hreflects⟩ := rc.login_queues hc ctx username password hs
    exact ⟨_, s', hlogin.bind (.pure _ _), hs', hreflects⟩
  | logout given =>
    obtain ⟨step, s', hlogout, hs', hreflects⟩ := rc.logout_queues hc ctx given hs
    exact ⟨_, s', hlogout.bind (.pure _ _), hs', hreflects⟩

open VisitEvent

theorem visit_reflects (hc : rc.Governs clock inv before after b c) (ctx : RequestContext)
    (steps : List VisitStep) (hs : inv s) :
    ∃ events, Visit ctx s events ∧
      events.map (fun e => (e.command, e.step)) = steps.map (fun step => (c, step)) ∧
      ∀ e ∈ events, rc.Reflects clock e.step e.outcome := by
  induction steps generalizing ctx s with
  | nil => exact ⟨[], .nil ctx s, rfl, by simp⟩
  | cons step steps ih =>
    obtain ⟨out, s', hserve, hs', hreflects⟩ := serve_queues hc ctx step hs
    obtain ⟨events, hvisit, hmap, hall⟩ := ih out.context hs'
    refine ⟨⟨c, step, ctx, s, out, s'⟩ :: events, .cons (e := ⟨c, step, ctx, s, out, s'⟩) hserve
      hvisit, ?_, List.forall_mem_cons.2 ⟨hreflects, hall⟩⟩
    rw [List.map_cons, hmap, List.map_cons]

/-- A request that has nothing queued under the name of the cookie gets its scope, and then logs in
and out in any order. All of it is carried out. The scope has queued the removal of the cookie if
remember-me was asked about a token that is not valid, and nothing otherwise. After each of the
operations there is one cookie of the name: a token for the principal after a login that succeeded,
and a removal after a login that failed or a logout. -/
theorem visit_queues (hc : rc.Governs clock inv before after b c) (hs : inv s)
    (hctx : ctx.queued rc.cookieName = []) {calls : List LoginCall}
    (hscope : Makes (c.scope ctx) (c.recorded.scope ctx) s calls (ctx₁, .ok ()) s₁)
    (steps : List VisitStep) :
    ((∃ call ∈ calls, rc.Rejects call) →
        ctx₁.queued rc.cookieName = [.removal rc.cookieName]) ∧
      ((∀ call ∈ calls, ¬rc.Rejects call) → ctx₁.queued rc.cookieName = []) ∧
      ∃ events, Visit ctx₁ s₁ events ∧
        events.map (fun e => (e.command, e.step)) = steps.map (fun step => (c, step)) ∧
        ∀ e ∈ events, rc.Reflects clock e.step e.outcome := by
  obtain ⟨hs₁, hrejected, hspared⟩ := (rc.scope_queues hc ctx).of_makes hs hscope
  exact ⟨hrejected, fun hnone => (hspared hnone).trans hctx, visit_reflects hc ctx₁ steps hs₁⟩

/-! ### A small visit -/

/-- Logins are remembered for an hour. -/
def anHour : RememberMeConfig := ⟨"remember-me", "secret", 3600⟩

/-- A command that keeps no sessions and trusts everybody but mallory. -/
def wary : LoginCommand (StateT Unit (Except Empty)) where
  config :=
    { verifier := ⟨fun credential =>
        if credential.username.text = "mallory" then return .error .badCredential
        else return .ok ⟨credential.username.text, .empty⟩⟩
      store := none
      strategy := .null
      rememberMe := anHour.service (return ⟨0⟩)
      handlers := some [anHour.handler, .cookieClearing ["theme"]]
      mode := .perClient
      invalidateSession := true }
  started := some ⟨[anHour.handler, .cookieClearing ["theme"]], .perClient⟩

theorem governs_wary : anHour.Governs (pure ⟨0⟩) (fun _ => True) []
    [.cookieClearing ["theme"]] .perClient wary where
  started := rfl
  rememberMe := rfl
  positive := by decide
  clock _ _ := ⟨⟨0⟩, 3600, (), .pure _ _, trivial, by decide⟩
  spares := List.forall_mem_singleton.2 (LogoutHandler.spares_cookieClearing (by decide))
  handlers := List.forall_mem_singleton.2 fun _ _ s hs => ⟨_, s, .pure _ s, hs⟩
  verifier credential s hs := by
    simp only [wary]
    split
    · exact ⟨_, s, .pure _ s, hs⟩
    · exact ⟨_, s, .pure _ s, hs⟩
  binder := trivial
  strategy ctx _ s hs := ⟨(ctx, .ok ()), s, .pure _ s, hs⟩

/-- A request whose cookie holds no token. -/
def planted : RequestContext := { requestCookies := [("remember-me", "junk")] }

/-- The cookie is removed, then alice is remembered, then mallory is turned away and alice's token
is removed, and it is removed once more when somebody logs out. -/
theorem wary_reflects : ∃ calls ctx, ∃ events : List (VisitEvent Unit Empty),
    Makes (wary.scope planted) (wary.recorded.scope planted) () calls (ctx, .ok ()) () ∧
    ctx.queued "remember-me" = [.removal "remember-me"] ∧
    Visit ctx () events ∧
    events.map (fun e => e.step) = [.login "alice" "1234", .login "mallory" "1234", .logout none] ∧
    ∀ e ∈ events, anHour.Reflects (pure ⟨0⟩ : StateT Unit (Except Empty) _) e.step e.outcome := by
  have hscope : Makes (wary.scope planted) (wary.recorded.scope planted) ()
      [.autoLogin planted (anHour.autoLogin ⟨0⟩ planted)] ((anHour.autoLogin ⟨0⟩ planted).1, .ok ())
      () := ⟨rfl, fun _ => rfl⟩
  obtain ⟨hremoved, -, events, hvisit, hmap, hall⟩ := visit_queues governs_wary trivial rfl hscope
    [.login "alice" "1234", .login "mallory" "1234", .logout none]
  have hrejects : anHour.Rejects (.autoLogin planted (anHour.autoLogin ⟨0⟩ planted)) :=
    ⟨planted, "junk", ⟨0⟩, .invalidToken, rfl, rfl, rfl⟩
  refine ⟨_, _, events, hscope, hremoved ⟨_, List.mem_singleton_self _, hrejects⟩, hvisit, ?_, hall⟩
  have hstep := congrArg (List.map Prod.snd) hmap
  rw [List.map_map] at hstep
  exact hstep

end RememberMeConfig

end WebLogin
