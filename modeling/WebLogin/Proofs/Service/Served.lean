/-
How a request is served, whatever it asks for.

Some requests are answered at once. Any other asks for an action, which is done in the scope that
the request gets, and the cookies that the response sets are those of the context that is left.

* `LoginService.serve_of_yields` — which of this happened;
* `LoginService.serve_moves` — where the session of a request has gone;
* `LoginService.serve_leaves` — a request that logs nobody in puts nobody into a session;
* `LoginService.serve_of_logout_ok` — what a logout has done.
-/
import WebLogin.Proofs.Login.Visits
import WebLogin.Proofs.Service.Responses

namespace WebLogin

namespace Http

open World (Calm Rests Shifts Settles)

/-! ### Requests and actions -/

/-- The request goes to where one logs in. -/
def Request.TargetsLogin (r : Request) : Prop := r.method = .post ∧ r.path = Route.login.path

/-- The action is to log in. -/
def Action.IsLogin : Action → Prop
  | .login _ _ => True
  | _ => False

theorem BodyFault.setCookies_response (f : BodyFault) : f.response.setCookies = [] := by
  have hlower : ("content-type".toLower == "set-cookie") = false := by decide +kernel
  rw [Response.setCookies, headerValues, BodyFault.response, Response.text,
    List.filter_cons_of_neg (by rw [hlower]; decide)]
  rfl

theorem Route.headerValues_allowHeader (route : Route) :
    headerValues "set-cookie" [route.allowHeader] = [] := by
  cases route <;> decide +kernel

namespace LoginService

variable {m : Type → Type} [Monad m] [LawfulMonad m]

theorem setCookies_preflight (r : Request) : (preflight r).setCookies = [] := by
  have hmethods : headerValues "set-cookie" [AllowedOrigins.methodsHeader] = [] := by decide +kernel
  have happend (hs : List Header) :
      AllowedOrigins.methodsHeader :: hs = [AllowedOrigins.methodsHeader] ++ hs := rfl
  rw [Response.setCookies, preflight]
  dsimp only
  rw [happend, headerValues_append, hmethods]
  cases Route.ofPath? r.path with
  | none => rfl
  | some route => exact route.headerValues_allowHeader

/-- Either something is answered at once, or an action is done in the scope of a request, and the
response to that is only dressed up. -/
inductive Dispatched (s : LoginService m) (r : Request) (x : m Response) : Prop where
  | atOnce (response : Response) (eq : x = pure response) (untold : response.setCookies = [])
  | inScope (a : Action) (dress : Response → Response) (login : a.IsLogin → r.TargetsLogin)
      (eq : x = do return dress (← s.inScope r (s.operation a)))
      (status : ∀ response, (dress response).status = response.status)
      (told : ∀ response, (dress response).setCookies = response.setCookies)

theorem Dispatched.dress {s : LoginService m} {r : Request} {x : m Response}
    (h : s.Dispatched r x) {dress : Response → Response}
    (status : ∀ response, (dress response).status = response.status)
    (told : ∀ response, (dress response).setCookies = response.setCookies) :
    s.Dispatched r (do return dress (← x)) := by
  cases h with
  | atOnce response eq untold =>
    exact .atOnce (dress response) (by rw [eq, pure_bind]) (by rw [told, untold])
  | inScope a dress' login eq status' told' =>
    refine .inScope a (fun response => dress (dress' response)) login ?_
      (fun response => by rw [status, status']) fun response => by rw [told, told']
    rw [eq, bind_assoc]
    simp only [pure_bind]

theorem run_dispatched (s : LoginService m) {route : Route} {r : Request}
    (h : route = .login → r.TargetsLogin) : s.Dispatched r (s.run route r) := by
  have hscope (a : Action) (ha : a.IsLogin → r.TargetsLogin) :
      s.Dispatched r (s.inScope r (s.operation a)) :=
    .inScope a id ha (by simp) (fun _ => rfl) fun _ => rfl
  cases route with
  | login =>
    rw [run, login]
    cases hbody : readBody LoginForm.reader r with
    | error f => exact .atOnce _ rfl f.setCookies_response
    | ok form => exact hscope (.login form.username form.password) fun _ => h rfl
  | logout => exact hscope .logout False.elim
  | authorize =>
    rw [run, authorize]
    cases hbody : readBody RolesForm.reader r with
    | error f => exact .atOnce _ rfl f.setCookies_response
    | ok form =>
      exact hscope (.authorize form.roles) False.elim
  | principal => exact hscope .principal False.elim

theorem dispatch_dispatched (s : LoginService m) (r : Request) : s.Dispatched r (s.dispatch r) := by
  rw [dispatch]
  cases hroute : Route.ofPath? r.path with
  | none => exact .atOnce _ rfl rfl
  | some route =>
    dsimp only
    split
    · rename_i hmethod
      have hlogin : route = .login → r.TargetsLogin := by
        rintro rfl
        have hpath := List.find?_some hroute
        refine ⟨?_, (beq_iff_eq.1 hpath).symm⟩
        rw [List.contains_iff_mem] at hmethod
        exact List.mem_singleton.1 hmethod
      refine (s.run_dispatched hlogin).dress (fun response => ?_) fun response => ?_
      · split <;> rfl
      · split <;> rfl
    · exact .atOnce _ rfl route.headerValues_allowHeader

theorem serve_dispatched (s : LoginService m) (r : Request) : s.Dispatched r (s.serve r) := by
  have hdispatched := s.dispatch_dispatched r
  rw [serve]
  cases horigins : s.origins with
  | none => exact hdispatched
  | some allowed =>
    have hcors : headerValues "set-cookie" (allowed.originHeaders r) = [] := by
      have hnone := headerValues_corsHeaders s r (.inr rfl)
      rwa [corsHeaders, horigins] at hnone
    have htold (response : Response) :
        (response.withHeaders (allowed.originHeaders r)).setCookies = response.setCookies := by
      rw [Response.setCookies_withHeaders, hcors, List.append_nil]
    dsimp only
    split
    · exact (Dispatched.atOnce _ rfl (setCookies_preflight r)).dress (fun _ => rfl) htold
    · exact hdispatched.dress (fun _ => rfl) htold

/-! ### Over a store in memory -/

section

variable {α : Type} {ids : Nat → SessionId} {settings : Settings} {w w' : World α}
  {svc : LoginService (World.Run α)} {r : Request} {a : Action} {ctx ctx' : RequestContext}
  {response : Response}

/-- What a request brings to its scope. -/
def context (svc : LoginService (World.Run α)) (r : Request) : RequestContext :=
  (CookieJar.ofHeaders r.headers).requestContext svc.cookieName

/-- The cookies that the response to a request sets if it leaves a context. -/
def toldOf (svc : LoginService (World.Run α)) (r : Request) (now : Timestamp)
    (ctx : RequestContext) : List String :=
  headerValues "set-cookie" ((CookieJar.ofHeaders r.headers).writeContext svc.cookieName now
    ((CookieJar.ofHeaders r.headers).presented svc.cookieName) (LoginCommand.finish ctx)).1.headers

/-- How a request was served that asked for an action: it got no scope, or the action was done in
its scope. -/
inductive Served (svc : LoginService (World.Run α)) (a : Action) (r : Request) (w : World α)
    (response : Response) : World α → Prop where
  | refused {ctx : RequestContext} {e : ScopeError} {w₁ : World α}
      (scope : Yields (svc.command.scope (svc.context r)) w (ctx, .error e) w₁)
      (status : response.status = 500) (untold : response.setCookies = []) :
      Served svc a r w response w₁
  | done {ctx ctx' : RequestContext} {answer : Response} {now : Timestamp} {w₁ w₂ w₃ : World α}
      (scope : Yields (svc.command.scope (svc.context r)) w (ctx, .ok ()) w₁)
      (operation : Yields (svc.operation a ctx) w₁ (ctx', answer) w₂)
      (clock : Yields svc.clock w₂ now w₃) (status : response.status = answer.status)
      (told : response.setCookies = svc.toldOf r now ctx') : Served svc a r w response w₃

theorem Served.dress {response' : Response} (h : svc.Served a r w response w')
    (hstatus : response'.status = response.status)
    (htold : response'.setCookies = response.setCookies) : svc.Served a r w response' w' := by
  cases h with
  | refused scope status untold =>
    exact .refused scope (hstatus.trans status) (htold.trans untold)
  | done scope operation clock status told =>
    exact .done scope operation clock (hstatus.trans status) (htold.trans told)

/-- What an action answers sets no cookies by itself. -/
theorem untold_of_operation {answer : Response}
    (h : Yields (svc.operation a ctx) w (ctx', answer) w') : answer.setCookies = [] := by
  have hjson : ∃ status body, answer = .json status body := by
    cases a with
    | login username password =>
      obtain ⟨⟨ctx₁, result⟩, w₁, -, hrest⟩ := h.of_bind
      obtain ⟨hstep, -⟩ := hrest.eq (.pure _ _)
      rw [(Prod.mk.inj hstep).2]
      cases result <;> exact ⟨_, _, rfl⟩
    | logout =>
      obtain ⟨⟨ctx₁, result⟩, w₁, -, hrest⟩ := h.of_bind
      obtain ⟨hstep, -⟩ := hrest.eq (.pure _ _)
      rw [(Prod.mk.inj hstep).2]
      cases result <;> exact ⟨_, _, rfl⟩
    | authorize roles =>
      obtain ⟨hstep, -⟩ := h.eq (.pure _ _)
      rw [(Prod.mk.inj hstep).2]
      exact ⟨_, _, rfl⟩
    | principal =>
      obtain ⟨hstep, -⟩ := h.eq (.pure _ _)
      rw [(Prod.mk.inj hstep).2]
      cases ctx.principal <;> exact ⟨_, _, rfl⟩
  obtain ⟨status, body, rfl⟩ := hjson
  exact Response.setCookies_json status body

theorem inScope_of_yields (h : Yields (svc.inScope r (svc.operation a)) w response w') :
    svc.Served a r w response w' := by
  rw [inScope] at h
  obtain ⟨⟨ctx, result⟩, w₁, hscope, hrest⟩ := h.of_bind
  cases result with
  | error e =>
    obtain ⟨rfl, rfl⟩ := hrest.eq (.pure _ _)
    exact .refused hscope rfl (Response.setCookies_json _ _)
  | ok u =>
    obtain ⟨⟨ctx', answer⟩, w₂, hoperation, hrest⟩ := hrest.of_bind
    obtain ⟨now, w₃, hnow, hrest⟩ := hrest.of_bind
    obtain ⟨hresponse, rfl⟩ : response = answer.withHeaders ((CookieJar.ofHeaders
        r.headers).writeContext svc.cookieName now ((CookieJar.ofHeaders r.headers).presented
        svc.cookieName) (LoginCommand.finish ctx')).1.headers ∧ w' = w₃ := hrest.eq (.pure _ _)
    refine .done hscope hoperation hnow (by rw [hresponse]; rfl) ?_
    rw [hresponse, Response.setCookies_withHeaders, untold_of_operation hoperation,
      List.nil_append, toldOf]

/-- A request has been answered at once, or it has asked for an action and been served. -/
theorem serve_of_yields (h : Yields (svc.serve r) w response w') :
    (w' = w ∧ response.setCookies = []) ∨
      ∃ a : Action, (a.IsLogin → r.TargetsLogin) ∧ svc.Served a r w response w' := by
  cases svc.serve_dispatched r with
  | atOnce answer eq untold =>
    rw [eq] at h
    obtain ⟨rfl, rfl⟩ := h.eq (.pure _ _)
    exact .inl ⟨rfl, untold⟩
  | inScope a dress login eq status told =>
    rw [eq] at h
    obtain ⟨answer, w₁, hscope, hrest⟩ := h.of_bind
    obtain ⟨rfl, rfl⟩ := hrest.eq (.pure _ _)
    exact .inr ⟨a, login, (inScope_of_yields hscope).dress (status answer) (told answer)⟩

theorem served_of_asks (hr : r.Asks a) (h : Yields (svc.serve r) w response w') :
    svc.Served a r w response w' := by
  rw [serve_eq svc hr] at h
  obtain ⟨answer, w₁, hscope, hrest⟩ := h.of_bind
  obtain ⟨rfl, rfl⟩ := hrest.eq (.pure _ _)
  refine (inScope_of_yields hscope).dress rfl ?_
  rw [Response.setCookies_withHeaders, headerValues_corsHeaders svc r (.inr rfl), List.append_nil]

/-! ### Sessions -/

/-- A service in memory that remembers logins, with names for its two cookies that differ and can be
written. -/
structure Remembering (ids : Nat → SessionId) (settings : Settings)
    (svc : LoginService (World.Run α)) : Prop where
  command : svc.command.Over ids settings svc.clock
  enabled : settings.rememberMe.enabled = true
  session : IsCookieName svc.cookieName
  token : IsCookieName settings.rememberMe.cookieName
  distinct : settings.rememberMe.cookieName ≠ svc.cookieName

variable (hsvc : svc.Remembering ids settings)
include hsvc

theorem operation_moves (a : Action) (ctx : RequestContext) :
    Moving ids ctx.sessionId (svc.operation a ctx) := by
  cases a with
  | login username password =>
    exact (LoginCommand.login_moves hsvc.command ctx username password).bind
      fun _ => (Resting.pure rfl).moving
  | logout =>
    have hlogout : Resting ids ctx.sessionId (svc.command.logout ctx none) := by
      rintro w ⟨ctx', result⟩ w' hw h
      exact (LoginCommand.logout_of_yields hsvc.command hw hsvc.enabled h).1
    exact hlogout.moving.bind fun _ => (Resting.pure rfl).moving
  | authorize roles => exact (Resting.pure rfl).moving
  | principal => exact (Resting.pure rfl).moving

theorem Served.moves (h : svc.Served a r w response w') (hw : w.Sound ids) :
    ∃ new, Shifts ids (svc.context r).sessionId new w w' := by
  cases h with
  | refused scope => exact ⟨_, (LoginCommand.scope_of_yields hsvc.command hw scope).moves⟩
  | done scope operation clock =>
    have hscope := (LoginCommand.scope_of_yields hsvc.command hw scope).moves
    have hoperation := operation_moves hsvc a _ hscope.sound operation
    have hclock := hsvc.command.calming hoperation.sound clock
    exact ⟨_, (hscope.trans hoperation).trans (hclock.rests _).moves⟩

/-- Whatever is asked, sessions are moved, and never shared. -/
theorem serve_moves (h : Yields (svc.serve r) w response w') (hw : w.Sound ids) :
    ∃ new, Shifts ids (svc.context r).sessionId new w w' := by
  rcases serve_of_yields h with ⟨rfl, -⟩ | ⟨a, -, hserved⟩
  · exact ⟨_, ((World.Calm.refl hw).rests _).moves⟩
  · exact hserved.moves hsvc hw

/-- What a request leaves in its context if nobody is found and nobody is logged in. Only a login
that breaks off can have given it a new session. -/
structure Leaves (settings : Settings) (ids : Nat → SessionId) (login : Prop)
    (old : Option SessionId) (ctx' : RequestContext) (status : Nat) (w w' : World α) : Prop where
  onlyRemovals : ctx'.OnlyRemovals
  settles : settings.login.mode = .perSession → Settles ids old ctx'.sessionId w w'
  stays : (login → status < 500) → ctx'.sessionId = old ∨ ctx'.sessionId = none

omit hsvc in
theorem Leaves.of_rests {old : Option SessionId} {login : Prop} {status : Nat}
    (hctx : ctx'.OnlyRemovals) (h : Rests ids old ctx'.sessionId w w') :
    Leaves settings ids login old ctx' status w w' :=
  ⟨hctx, fun _ => h.settles, fun _ => h.session.imp_right And.left⟩

omit hsvc in
/-- A scope goes before, and the time is taken after that. -/
theorem Leaves.between {old mid : Option SessionId} {login login' : Prop} {status : Nat}
    {w₁ w₂ : World α} (hrests : Rests ids old mid w w₁)
    (h : Leaves settings ids login mid ctx' status w₁ w₂) (hcalm : World.Calm ids w₂ w')
    (hlogin : login → login') : Leaves settings ids login' old ctx' status w w' where
  onlyRemovals := h.onlyRemovals
  settles hmode := (hrests.settles.trans (h.settles hmode)).trans (hcalm.rests _).settles
  stays hstatus := by
    rcases h.stays fun hl => hstatus (hlogin hl) with hmid | hnone
    · rcases hrests.session with hold | ⟨hnone, -⟩
      · exact .inl (hmid.trans hold)
      · exact .inr (hmid.trans hnone)
    · exact .inr hnone

theorem operation_leaves (hw : w.Sound ids) (hctx : ctx.OnlyRemovals) {answer : Response}
    (h : Yields (svc.operation a ctx) w (ctx', answer) w')
    (hlogin : a.IsLogin → answer.status ≠ 200) :
    Leaves settings ids a.IsLogin ctx.sessionId ctx' answer.status w w' := by
  cases a with
  | login username password =>
    obtain ⟨⟨ctx₁, result⟩, w₁, hrun, hrest⟩ := h.of_bind
    obtain ⟨hstep, rfl⟩ := hrest.eq (.pure _ _)
    obtain ⟨rfl, rfl⟩ := Prod.mk.inj hstep
    cases result with
    | ok p => exact absurd rfl (hlogin trivial)
    | error e =>
      obtain ⟨f, rfl, hstays, hremovals, hsettles⟩ :=
        LoginCommand.login_of_error hsvc.command hw hrun
      refine ⟨hremovals hctx, hsettles, fun hstatus => .inl (hstays fun hreason => ?_)⟩
      have hbroken : (ApiError.ofLoginError (.failed f)).response.status = 500 := by
        rw [ApiError.ofLoginError, if_pos hreason]
        rfl
      have hlow := hstatus trivial
      exact absurd (hbroken ▸ hlow) (Nat.lt_irrefl 500)
  | logout =>
    obtain ⟨⟨ctx₁, result⟩, w₁, hrun, hrest⟩ := h.of_bind
    obtain ⟨hstep, rfl⟩ := hrest.eq (.pure _ _)
    obtain ⟨rfl, -⟩ := Prod.mk.inj hstep
    obtain ⟨hrests, -, hclears, -⟩ :=
      LoginCommand.logout_of_yields hsvc.command hw hsvc.enabled hrun
    exact .of_rests (hclears.onlyRemovals hctx) hrests
  | authorize roles =>
    obtain ⟨hstep, rfl⟩ := h.eq (.pure _ _)
    obtain ⟨rfl, -⟩ := Prod.mk.inj hstep
    exact .of_rests hctx ((World.Calm.refl hw).rests _)
  | principal =>
    obtain ⟨hstep, rfl⟩ := h.eq (.pure _ _)
    obtain ⟨rfl, -⟩ := Prod.mk.inj hstep
    exact .of_rests hctx ((World.Calm.refl hw).rests _)

/-- A request in which nobody is found, and by which nobody is logged in, puts nobody into a
session. -/
theorem serve_leaves (h : Yields (svc.serve r) w response w') (hw : w.Sound ids)
    (hnobody : ∀ {ctx result w₁}, Yields (svc.command.scope (svc.context r)) w (ctx, result) w₁ →
      ctx.principal = none)
    (hlogin : r.TargetsLogin → response.status ≠ 200) :
    (settings.login.mode = .perSession → World.Calm ids w w') ∧
      (response.setCookies = [] ∨
        ∃ ctx' now, response.setCookies = svc.toldOf r now ctx' ∧
          Leaves settings ids r.TargetsLogin (svc.context r).sessionId ctx' response.status
            w w') := by
  rcases serve_of_yields h with ⟨rfl, huntold⟩ | ⟨a, ha, hserved⟩
  · exact ⟨fun _ => .refl hw, .inl huntold⟩
  · cases hserved with
    | refused scope status untold =>
      obtain ⟨hcalm, -⟩ :=
        (LoginCommand.scope_of_yields hsvc.command hw scope).calm_of_nobody (hnobody scope)
      exact ⟨fun _ => hcalm, .inl untold⟩
    | done scope operation clock status told =>
      have hscoped := LoginCommand.scope_of_yields hsvc.command hw scope
      obtain ⟨hcalm, hrests⟩ := hscoped.calm_of_nobody (hnobody scope)
      have hleaves := operation_leaves hsvc hcalm.sound
        (hscoped.onlyRemovals fun _ hc => by cases hc) operation
        fun hl => status ▸ hlogin (ha hl)
      have hmoves := operation_moves hsvc a _ hcalm.sound operation
      have htime := hsvc.command.calming hmoves.sound clock
      rw [← status] at hleaves
      have hall : Leaves settings ids r.TargetsLogin _ _ response.status w w' :=
        .between (hrests rfl) hleaves htime ha
      exact ⟨fun hmode => (hall.settles hmode).calm, .inr ⟨_, _, told, hall⟩⟩

/-- A logout that is answered well has been done. It leaves nobody in the session of the request, if
that still has one, and the token is to be removed. -/
theorem serve_of_logout_ok (hr : r.Asks .logout) (h : Yields (svc.serve r) w response w')
    (hw : w.Sound ids) (hok : response.status = 200) :
    ∃ ctx' now, response.setCookies = svc.toldOf r now ctx' ∧ ctx'.OnlyRemovals ∧
      (∃ c ∈ ctx'.responseCookies, c.name = settings.rememberMe.cookieName) ∧
      (settings.login.mode = .perSession → World.Idle ids w' ctx'.sessionId) ∧
      ((svc.context r).sessionId = none →
        (svc.context r).requestCookie? settings.rememberMe.cookieName = none →
        ctx'.sessionId = none) := by
  cases served_of_asks hr h with
  | refused scope status => exact absurd (hok.symm.trans status) (by decide)
  | @done ctx left answer now w₁ w₂ _ scope operation clock status told =>
    have hscoped := LoginCommand.scope_of_yields hsvc.command hw scope
    obtain ⟨⟨ctx₁, result⟩, w₃, hrun, hrest⟩ := operation.of_bind
    obtain ⟨hstep, rfl⟩ := hrest.eq (.pure _ _)
    obtain ⟨rfl, -⟩ := Prod.mk.inj hstep
    obtain ⟨hrests, -, hclears, hvacant⟩ :=
      LoginCommand.logout_of_yields hsvc.command hscoped.moves.sound hsvc.enabled hrun
    have htime := hsvc.command.calming hrests.calm.sound clock
    refine ⟨left, now, told, hclears.onlyRemovals (hscoped.onlyRemovals fun _ hc => by cases hc),
      hclears.queued (.inl List.mem_cons_self), fun hmode => ?_, fun hnone htoken => ?_⟩
    · refine World.Idle.mono (fun id hid => ⟨?_, hvacant hmode id hid⟩) htime
      rcases hrests.session with hsame | ⟨hnone, -⟩
      · refine World.Drawn.mono ?_ hrests.calm.drawn
        exact hscoped.drawn (Deployment.binderOf_ne_perClient hmode) (hsame ▸ hid)
      · rw [hnone] at hid
        cases hid
    · -- With nothing brought, the request is never given a session.
      obtain ⟨hnobody, -⟩ := hscoped.nobody rfl
        (fun _ id hid => by rw [hnone] at hid; cases hid) htoken
      have hscope : ctx.sessionId = none := by
        rcases ((hscoped.calm_of_nobody hnobody).2 rfl).session with hsame | ⟨hgone, -⟩
        · exact hsame.trans hnone
        · exact hgone
      rcases hrests.session with hsame | ⟨hgone, -⟩
      · exact hsame.trans hscope
      · exact hgone

end

end LoginService

end Http

end WebLogin
