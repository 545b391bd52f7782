/-
What a logout over HTTP still does when the session store fails.

A logout that has begun runs all of its handlers, whatever fails. But the request is given a scope
first, and if a call of the store fails there, the response is an error without cookies and no
handler is run.

* `LoginCommand.logout_clears` — the calls of a logout and what it leaves queued;
* `LoginService.bestEffort_iff` — a logout over HTTP does all that it should exactly if no call of
  the store failed before it began, and no cookie that it removes is set again for the session;
* `LoginService.neglected` — one look-up that fails, and nothing is cleaned up.
-/
import WebLogin.Proofs.Http.Removals
import WebLogin.Proofs.Logout.Clearing
import WebLogin.Proofs.Service.Responses
import WebLogin.Proofs.Store.Faults

namespace WebLogin

open RequestContext (Clears)

variable {σ ε : Type} {s s' : σ} {inv : σ → Prop} {ctx ctx' : RequestContext}

/-- Whichever of its calls are to fail, a store that answers still does. -/
theorem SessionStore.Responds.faulty {store : SessionStore (StateT σ (Except ε))}
    (hstore : store.Responds inv) : store.faulty.Responds fun w => inv w.1 := by
  have hfalter {α : Type} {call : StateT σ (Except ε) (Except StoreError α)}
      (hcall : WebLogin.Responds inv call) :
      WebLogin.Responds (fun w => inv w.1) (falter call) := by
    intro w hw
    rcases falter_cases call w with ⟨e, plan, -, hfails⟩ | ⟨plan, -, hgoes⟩
    · exact ⟨_, _, hfails, hw⟩
    · obtain ⟨a, s', hrun, hs'⟩ := hcall w.1 hw
      exact ⟨a, _, hgoes hrun, hs'⟩
  exact ⟨hfalter hstore.create, fun id => hfalter (hstore.get id), fun x => hfalter (hstore.save x),
    fun id => hfalter (hstore.invalidate id)⟩

/-! ### The logout of a service -/

theorem Deployment.responds_binderOf {settings : Settings}
    {store : SessionStore (StateT σ (Except ε))} (hstore : store.Responds inv) :
    (binderOf settings store).Responds inv := by
  rw [binderOf]
  split
  · exact hstore
  · trivial

namespace LoginCommand

variable {settings : Settings} {store : SessionStore (StateT σ (Except ε))}
  {c : LoginCommand (StateT σ (Except ε))}

theorem responds_cleanup (hstore : store.Responds inv) :
    ∀ handler ∈ Deployment.logoutHandlers settings store, ∀ ctx p,
      Responds inv (handler.cleanup ctx p) := by
  refine Deployment.forall_logoutHandlers ?_ ?_ ?_
  · intro ends ctx p s hs
    rw [LogoutHandler.securityContext]
    dsimp only
    cases ends with
    | false => exact ⟨_, s, .pure _ _, hs⟩
    | true =>
      cases ctx.sessionId with
      | none => exact ⟨_, s, .pure _ _, hs⟩
      | some id =>
        obtain ⟨r, s', hrun, hs'⟩ := hstore.invalidate id s hs
        exact ⟨_, s', hrun.bind (.pure _ _), hs'⟩
  · exact fun rc ctx p s hs => ⟨_, s, .pure _ _, hs⟩
  · exact fun names ctx p s hs => ⟨_, s, .pure _ _, hs⟩

/-- A logout runs every handler once and in order, and queues the removal of every cookie that it is
to remove, whatever the store answers. -/
theorem logout_clears (henabled : settings.rememberMe.enabled = true)
    (hc : c.started = some
      ⟨Deployment.logoutHandlers settings store, Deployment.binderOf settings store⟩)
    (hstore : store.Responds inv) (ctx : RequestContext) :
    Tells inv (fun calls step =>
        calls.filterMap LoginCall.handler? =
          (Deployment.logoutHandlers settings store).map LogoutHandler.name ∧
        Clears (Deployment.cleared settings) ctx step.1)
      (c.logout ctx none) (c.recorded.logout ctx none) := by
  have hbinder : (Deployment.binderOf settings store).Responds inv :=
    Deployment.responds_binderOf hstore
  intro s hs
  have hcleanup : ∀ handler ∈ Deployment.logoutHandlers settings store, ∀ ctx',
      Responds inv (handler.cleanup ctx' (none <|> ctx.principal)) :=
    fun handler hmem ctx' => responds_cleanup hstore handler hmem ctx' _
  obtain ⟨calls, ctx₁, s₁, hhandlers, hs₁, hcleans⟩ :=
    LogoutSequence.runHandlers_cleansUp (none <|> ctx.principal) hcleanup ctx hs
  obtain ⟨calls', ⟨ctx₂, unbound⟩, s', hunbind, hs', hcalled, rfl⟩ :=
    SessionBinder.unbind_tells hbinder ctx₁ s₁ hs₁
  have hmakes : Makes (c.logout ctx none) (c.recorded.logout ctx none) s (calls ++ calls')
      (ctx₁.unbindPrincipal, LogoutSequence.resultOf (calls.filterMap LoginCall.failure? ++
        LogoutSequence.failureOf LogoutSequence.binderName (unbound.mapError .store))) s' := by
    rw [logout, logout, hc, recorded_started hc]
    exact hhandlers.bind (hunbind.bind_pure rfl rfl)
  refine ⟨_, _, s', hmakes, hs', ?_, ?_⟩
  · -- Unbinding asks the store only, so it calls no handler.
    have hnone : calls'.filterMap LoginCall.handler? = [] :=
      List.filterMap_eq_nil_iff.2 (handlers_of_hooks hcalled.hooks_eq_nil)
    rw [List.filterMap_append, hnone, List.append_nil]
    exact hcleans.names
  · exact (Deployment.clears_of_cleansUp henabled hcleans).unbind

end LoginCommand

namespace Http

theorem removes_response {m : Type → Type} (svc : LoginService m) (r : Request) (status : Nat)
    (body : String) (jar : CookieJar) (name : String) :
    Removes (((Response.json status body).withHeaders jar.headers).withHeaders
        (svc.corsHeaders r)).headers name ↔ Removes jar.headers name := by
  have hlower : ("set-cookie".toLower == "set-cookie") = true := by decide +kernel
  have hcors : ∀ line, ("set-cookie", line) ∉ svc.corsHeaders r := by
    intro line hmem
    have hvalue : line ∈ headerValues "set-cookie" (svc.corsHeaders r) :=
      List.mem_map.2 ⟨_, List.mem_filter.2 ⟨hmem, hlower⟩, rfl⟩
    rw [headerValues_corsHeaders svc r (.inr rfl)] at hvalue
    cases hvalue
  refine exists_congr fun now => ?_
  constructor
  · intro hmem
    rcases List.mem_append.1 hmem with hmem | hmem
    · rcases List.mem_append.1 hmem with hmem | hmem
      · exact absurd (List.mem_singleton.1 hmem) (by simp)
      · exact hmem
    · exact absurd hmem (hcors _)
  · exact fun hmem => List.mem_append_left _ (List.mem_append_right _ hmem)

namespace LoginService

/-- A service whose command is recorded. -/
def recorded (svc : LoginService (StateT σ (Except ε))) : LoginService (Recording σ ε) where
  command := svc.command.recorded
  cookieName := svc.cookieName
  origins := svc.origins
  clock := unrecorded svc.clock

variable {svc : LoginService (StateT σ (Except ε))} {r : Request} {s₁ s₂ : σ}
  {before cleaned : List LoginCall}

/-- A request that is given no scope changes no cookie. -/
theorem serve_of_scope_error (hr : r.Asks .logout) {e : ScopeError}
    (hscope : Makes
      (svc.command.scope ((CookieJar.ofHeaders r.headers).requestContext svc.cookieName))
      (svc.command.recorded.scope ((CookieJar.ofHeaders r.headers).requestContext svc.cookieName))
      s before (ctx, .error e) s₁) :
    Makes (svc.serve r) (svc.recorded.serve r) s before
      ((ApiError.ofScopeError e).response.withHeaders (svc.corsHeaders r)) s₁ := by
  have hin : Makes (svc.inScope r (svc.operation .logout))
      (svc.recorded.inScope r (svc.recorded.operation .logout)) s before
      (ApiError.ofScopeError e).response s₁ := by
    rw [inScope, inScope]
    exact hscope.bind_pure rfl rfl
  rw [serve_eq svc hr, serve_eq svc.recorded hr]
  exact hin.bind_pure rfl rfl

/-- A logout in the scope of its request answers with the removals of the context that it leaves. -/
theorem serve_of_logout (hr : r.Asks .logout) {result : Except LogoutError Unit} {now : Timestamp}
    (hscope : Makes
      (svc.command.scope ((CookieJar.ofHeaders r.headers).requestContext svc.cookieName))
      (svc.command.recorded.scope ((CookieJar.ofHeaders r.headers).requestContext svc.cookieName))
      s before (ctx, .ok ()) s₁)
    (hlogout : Makes (svc.command.logout ctx none) (svc.command.recorded.logout ctx none) s₁ cleaned
      (ctx', result) s₂)
    (hclock : Makes svc.clock svc.recorded.clock s₂ [] now s') :
    ∃ response, Makes (svc.serve r) (svc.recorded.serve r) s (before ++ cleaned) response s' ∧
      ∀ name, Removes response.headers name ↔
        Removes ((CookieJar.ofHeaders r.headers).writeContext svc.cookieName now
          ((CookieJar.ofHeaders r.headers).presented svc.cookieName)
          (LoginCommand.finish ctx')).1.headers name := by
  have hoperation : ∃ status body, Makes (svc.operation .logout ctx)
      (svc.recorded.operation .logout ctx) s₁ cleaned (ctx', .json status body) s₂ := by
    cases result with
    | ok u => exact ⟨_, _, hlogout.bind_pure rfl rfl⟩
    | error e => exact ⟨_, _, hlogout.bind_pure rfl rfl⟩
  obtain ⟨status, body, hoperation⟩ := hoperation
  have hin : Makes (svc.inScope r (svc.operation .logout))
      (svc.recorded.inScope r (svc.recorded.operation .logout)) s (before ++ (cleaned ++ []))
      ((Response.json status body).withHeaders ((CookieJar.ofHeaders r.headers).writeContext
        svc.cookieName now ((CookieJar.ofHeaders r.headers).presented svc.cookieName)
        (LoginCommand.finish ctx')).1.headers) s' := by
    rw [inScope, inScope]
    exact hscope.bind (hoperation.bind (hclock.bind_pure rfl rfl))
  rw [List.append_nil] at hin
  refine ⟨_, ?_, removes_response svc r status body _⟩
  rw [serve_eq svc hr, serve_eq svc.recorded hr]
  exact hin.bind_pure rfl rfl

/-- What a logout is to do, whatever fails: every handler is run once, in order, and the response
removes every cookie that is to be removed and that the request brought. -/
structure BestEffort (settings : Settings) (store : SessionStore (StateT σ (Except ε)))
    (jar : CookieJar) (calls : List LoginCall) (response : Response) : Prop where
  handlers : calls.filterMap LoginCall.handler? =
    (Deployment.logoutHandlers settings store).map LogoutHandler.name
  removes : ∀ name ∈ Deployment.cleared settings, (jar.received? name).isSome = true →
    Removes response.headers name

/-- A logout does all that it is to do exactly if no call of the store has failed by the time that
the request has its scope, and the session cookie with which the response moves the browser to
another session, if it does, has not the name of a cookie that is to be removed. Which calls of the
store fail after that makes no difference. -/
theorem bestEffort_iff {settings : Settings} {store : SessionStore (StateT σ (Except ε))}
    {verifier : Verifier (StateT σ (Except ε))}
    (hcommand : Deployment.command settings svc.clock store verifier = .ok svc.command)
    (henabled : settings.rememberMe.enabled = true) (hstore : store.Responds inv)
    (hclock : Responds inv svc.clock) (hr : r.Asks .logout) (hs : inv s) :
    ∃ before step s₁ cleaned left response s',
      Makes (svc.command.scope ((CookieJar.ofHeaders r.headers).requestContext svc.cookieName))
        (svc.command.recorded.scope
          ((CookieJar.ofHeaders r.headers).requestContext svc.cookieName)) s before step s₁ ∧
      (step.2 = .ok () → ∃ result s₂, Makes (svc.command.logout step.1 none)
        (svc.command.recorded.logout step.1 none) s₁ cleaned (left, result) s₂) ∧
      Makes (svc.serve r) (svc.recorded.serve r) s (before ++ cleaned) response s' ∧ inv s' ∧
      (BestEffort settings store (CookieJar.ofHeaders r.headers) (before ++ cleaned) response ↔
        (∀ call ∈ before, call.error? = none) ∧
        ∀ id, left.sessionId = some id →
          some id ≠ (CookieJar.ofHeaders r.headers).presented svc.cookieName →
          ∀ name ∈ Deployment.cleared settings,
            ((CookieJar.ofHeaders r.headers).received? name).isSome = true →
            CookieJar.sessionName? svc.cookieName id ≠ some name) := by
  obtain ⟨jar, hjar⟩ : ∃ jar, jar = CookieJar.ofHeaders r.headers := ⟨_, rfl⟩
  have hbuilt := Except.ok.inj
    (hcommand.symm.trans (Deployment.command_eq_binderOf settings svc.clock store verifier))
  have hstarted : svc.command.started = some
      ⟨Deployment.logoutHandlers settings store, Deployment.binderOf settings store⟩ := by
    rw [hbuilt]
  have hremember : svc.command.config.rememberMe =
      (Deployment.rememberMeConfig settings).service svc.clock := by
    rw [hbuilt]
    show (if settings.rememberMe.enabled then _ else _) = _
    rw [henabled]
    rfl
  have hbinder : (Deployment.binderOf settings store).Responds inv :=
    Deployment.responds_binderOf hstore
  obtain ⟨before, ⟨ctx, result⟩, s₁, hscope, hs₁, hfaithful, hctx⟩ :=
    LoginCommand.scope_tells hstarted hbinder hremember hclock
      (show (jar.requestContext svc.cookieName).OnlyRemovals from fun _ hc => by cases hc) s hs
  have hbefore : before.filterMap LoginCall.handler? = [] :=
    List.filterMap_eq_nil_iff.2 hfaithful.handlers
  rw [hjar] at hscope
  cases result with
  | error e =>
    -- Nothing is cleaned up, though there is a handler for the session at least.
    have hserve := serve_of_scope_error hr hscope
    refine ⟨before, _, s₁, [], ctx, _, s₁, hscope, fun h => (by cases h),
      (List.append_nil before).symm ▸ hserve, hs₁, ?_⟩
    refine iff_of_false (fun h => ?_) fun h => ?_
    · have hnames := h.handlers
      rw [List.append_nil, hbefore] at hnames
      cases hnames
    · cases hfaithful.isOk_iff.2 h.1
  | ok u =>
    obtain ⟨cleaned, ⟨left, ended⟩, s₂, hlogout, hs₂, hnames, hclears⟩ :=
      LoginCommand.logout_clears henabled hstarted hstore ctx s₁ hs₁
    obtain ⟨now, s', hnow, hs'⟩ := hclock s₂ hs₂
    have hread : Makes svc.clock svc.recorded.clock s₂ [] now s' := .unrecorded hnow
    obtain ⟨response, hserve, hremoves⟩ := serve_of_logout hr hscope hlogout hread
    refine ⟨before, _, s₁, cleaned, left, response, s', hscope, fun _ => ⟨ended, s₂, hlogout⟩,
      hserve, hs', ?_⟩
    have hcalls : (before ++ cleaned).filterMap LoginCall.handler? =
        (Deployment.logoutHandlers settings store).map LogoutHandler.name := by
      rw [List.filterMap_append, hbefore, List.nil_append]
      exact hnames
    rw [← hjar] at hremoves ⊢
    have hname : ∀ name ∈ Deployment.cleared settings, (jar.received? name).isSome = true →
        (Removes response.headers name ↔ ∀ id, left.sessionId = some id →
          some id ≠ jar.presented svc.cookieName →
          CookieJar.sessionName? svc.cookieName id ≠ some name) := by
      intro name hcleared hreceived
      rw [hremoves]
      exact CookieJar.removes_writeContext_iff (hjar ▸ rfl) (hclears.onlyRemovals hctx)
        (hclears.queued (.inl hcleared)) hreceived
    constructor
    · intro h
      refine ⟨hfaithful.isOk_iff.1 rfl, fun id hid hmoved name hcleared hreceived => ?_⟩
      exact (hname name hcleared hreceived).1 (h.removes name hcleared hreceived) id hid hmoved
    · rintro ⟨-, hset⟩
      refine ⟨hcalls, fun name hcleared hreceived => ?_⟩
      exact (hname name hcleared hreceived).2
        fun id hid hmoved => hset id hid hmoved name hcleared hreceived

/-! ### A store that fails -/

/-- Settings that keep sessions and remember logins. -/
def rememberingSettings : Settings where
  login := { mode := .perSession, invalidateSession := true, clearCookies := [] }
  session := { cookieName := "SESSION", ttlSeconds := 60, backend := .memory }
  rememberMe := { enabled := true, cookieName := "remember-me", secret := "", ttlSeconds := 0 }
  redisHostName := ""
  postgresUrl := ""
  verifier := { backend := .postgres, users := [] }
  server := { address := "", allowedOrigins := [] }

/-- A store in memory whose calls fail by a schedule. -/
def faultyStore : SessionStore (StateT (World Unit × Schedule) (Except ClockOverflow)) :=
  (World.sessionStore World.counting).faulty

/-- A service over that store. -/
def faultyService : LoginService (StateT (World Unit × Schedule) (Except ClockOverflow)) where
  command :=
    { config := Deployment.loginConfig rememberingSettings (pure ⟨0⟩) faultyStore
        ⟨fun _ => pure (.error .unknownIdentity)⟩
      started := some ⟨Deployment.logoutHandlers rememberingSettings faultyStore,
        .perSession faultyStore⟩ }
  cookieName := "SESSION"
  origins := none
  clock := pure ⟨0⟩

/-- A request to log out that brings the first session and a token. -/
def logoutRequest : Request where
  method := .post
  target := "/logout"
  headers := [("cookie", "SESSION=00000000-0000-0000-0000-000000000000; remember-me=token")]

/-- What that request brings. -/
def logoutContext : RequestContext where
  sessionId := some (World.counting 0)
  requestCookies :=
    [("remember-me", "token"), ("SESSION", "00000000-0000-0000-0000-000000000000")]

theorem requestContext_logoutRequest :
    (CookieJar.ofHeaders logoutRequest.headers).requestContext faultyService.cookieName =
      logoutContext := by
  decide +kernel

/-- Ending the session fails, and the logout does all that it is to do. -/
theorem bestEffort_iff_faulty : ∃ calls response s',
    Makes (faultyService.serve logoutRequest) (faultyService.recorded.serve logoutRequest)
      (World.holding World.alice, [none, some (.unexpected "down")]) calls response s' ∧
    BestEffort rememberingSettings faultyStore (CookieJar.ofHeaders logoutRequest.headers) calls
      response := by
  have hscoped : Makes (faultyService.command.scope
        ((CookieJar.ofHeaders logoutRequest.headers).requestContext faultyService.cookieName))
      (faultyService.command.recorded.scope
        ((CookieJar.ofHeaders logoutRequest.headers).requestContext faultyService.cookieName))
      (World.holding World.alice, [none, some (.unexpected "down")])
      [.get (World.counting 0) (.ok (some ⟨World.counting 0, some World.alice⟩))]
      ({ logoutContext with principal := some World.alice }, .ok ())
      (World.holding World.alice, [some (.unexpected "down")]) := by
    rw [requestContext_logoutRequest]
    exact ⟨rfl, fun _ => rfl⟩
  have hended : Yields
      (faultyService.command.logout { logoutContext with principal := some World.alice } none)
      (World.holding World.alice, [some (.unexpected "down")])
      ({ logoutContext with
          sessionId := none
          responseCookies := [.removal "remember-me"] },
        .error (.handlers [⟨"security-context", .store (.unexpected "down")⟩]))
      (World.holding World.alice, []) := by
    rfl
  obtain ⟨before, step, s₁, cleaned, left, response, s', hscope, hlogout, hserve, -, hiff⟩ :=
    bestEffort_iff
      (Deployment.command_eq_binderOf rememberingSettings faultyService.clock faultyStore
        ⟨fun _ => pure (.error .unknownIdentity)⟩)
      rfl (SessionStore.Responds.faulty (World.responds_sessionStore World.counting))
      (fun w hw => ⟨⟨0⟩, w, .pure _ _, hw⟩) (r := logoutRequest) (.logout rfl (by decide))
      (s := (World.holding World.alice, [none, some (.unexpected "down")])) (by decide)
  obtain ⟨rfl, hstate⟩ := (hscope.recorded []).eq (hscoped.recorded [])
  obtain ⟨rfl, rfl⟩ := Prod.mk.inj hstate
  obtain ⟨ended, s₂, hlogout⟩ := hlogout rfl
  obtain ⟨hstep, -⟩ := hlogout.yields.eq hended
  obtain ⟨rfl, -⟩ := Prod.mk.inj hstep
  refine ⟨_, response, s', hserve, hiff.2 ⟨?_, fun id hid => by cases hid⟩⟩
  intro call hcall
  obtain rfl := List.mem_singleton.1 hcall
  rfl

/-- The look-up of the session fails, so that no handler is run and the token stays with the
browser. -/
theorem neglected : ∃ response s',
    Makes (faultyService.serve logoutRequest) (faultyService.recorded.serve logoutRequest)
      (World.holding World.alice, [some (.unexpected "down")])
      [.get (World.counting 0) (.error (.unexpected "down"))] response s' ∧
    response.status = 500 ∧
    ((CookieJar.ofHeaders logoutRequest.headers).received? "remember-me").isSome = true ∧
    ¬BestEffort rememberingSettings faultyStore (CookieJar.ofHeaders logoutRequest.headers)
      [.get (World.counting 0) (.error (.unexpected "down"))] response := by
  have hscope : Makes (faultyService.command.scope
        ((CookieJar.ofHeaders logoutRequest.headers).requestContext faultyService.cookieName))
      (faultyService.command.recorded.scope
        ((CookieJar.ofHeaders logoutRequest.headers).requestContext faultyService.cookieName))
      (World.holding World.alice, [some (.unexpected "down")])
      [.get (World.counting 0) (.error (.unexpected "down"))]
      ((CookieJar.ofHeaders logoutRequest.headers).requestContext faultyService.cookieName,
        .error (.store (.unexpected "down"))) (World.holding World.alice, []) := by
    rw [requestContext_logoutRequest]
    exact ⟨rfl, fun _ => rfl⟩
  refine ⟨_, _, serve_of_scope_error (.logout rfl (by decide)) hscope, rfl, by decide +kernel, ?_⟩
  intro h
  cases h.handlers

end LoginService

end Http

end WebLogin
