/-
After a logout nobody is logged in with a browser until somebody logs in again.

A service over a store in memory is used by anybody, and so it comes to some state. Then a browser
logs out, whatever cookies it holds. From there on time passes, and requests are made by the browser
and by others, none of which logs anybody in with that browser: the service answers the browser that
nobody is logged in and that no role is held.

* `LoginService.Reaches` — how a service comes to a state;
* `LoginService.Meanwhile` — what may happen after the logout;
* `LoginService.LoggedOut` — what the logout brings about and what lasts;
* `LoginService.nobody_after_logout` — the answers to the browser.
-/
import WebLogin.Proofs.Http.Jars
import WebLogin.Proofs.Service.Refinement
import WebLogin.Proofs.Service.Served

namespace WebLogin

namespace Http

open World (Calm Shifts Settles Idle)

variable {α : Type} {ids : Nat → SessionId} {settings : Settings} {w w' w₁ : World α}
  {svc : LoginService (World.Run α)} {b b' : Browser} {r : Request} {response : Response}

namespace LoginService

/-- What can become of a world while requests are served: time passes, what lies outside changes,
and anybody makes a request. -/
inductive Reaches (svc : LoginService (World.Run α)) (w : World α) : World α → Prop where
  | refl : Reaches svc w w
  | elapse {w' : World α} (before : Reaches svc w w') (ms : Nat) (outside : α) :
      Reaches svc w { w' with clock := w'.clock + ms, outside }
  | serve {w' w'' : World α} {r : Request} {response : Response} (before : Reaches svc w w')
      (run : Yields (svc.serve r) w' response w'') : Reaches svc w w''

/-- The request finds nobody, and logs nobody in. -/
def LogsNobodyIn (svc : LoginService (World.Run α)) (r : Request) (w : World α)
    (response : Response) : Prop :=
  (∀ {ctx result w₁}, Yields (svc.command.scope (svc.context r)) w (ctx, result) w₁ →
    ctx.principal = none) ∧ (r.TargetsLogin → response.status ≠ 200)

end LoginService

/-- A request of a browser may have logged it in: it was a login, and that was successful. A browser
that holds a cookie which cannot be sent brings no cookies at all. A login that breaks off may give
it a session in the place of that cookie, and then it brings the others. -/
def Browser.MayLogIn (b : Browser) (r : Request) (response : Response) : Prop :=
  r.TargetsLogin ∧ (response.status = 200 ∨ 500 ≤ response.status ∧ isPlain b.line ≠ true)

namespace LoginService

/-- What may happen to a browser and a world while nobody logs in with the browser. The browser
makes requests, and so do others. What they send is up to them, but if a request names the session
of the browser, it logs nobody in. -/
inductive Meanwhile (svc : LoginService (World.Run α)) (b : Browser) (w : World α) :
    Browser → World α → Prop where
  | refl : Meanwhile svc b w b w
  | elapse {b' : Browser} {w' : World α} (before : Meanwhile svc b w b' w') (ms : Nat)
      (outside : α) : Meanwhile svc b w b' { w' with clock := w'.clock + ms, outside }
  | own {b' : Browser} {w' w'' : World α} {r : Request} {response : Response}
      (before : Meanwhile svc b w b' w') (bare : headerValues "cookie" r.headers = [])
      (run : Yields (svc.serve (b'.send r)) w' response w'') (quiet : ¬b'.MayLogIn r response) :
      Meanwhile svc b w (b'.update response) w''
  | other {b' : Browser} {w' w'' : World α} {r : Request} {response : Response}
      (before : Meanwhile svc b w b' w') (run : Yields (svc.serve r) w' response w'')
      (quiet : ∀ id, b'.jar.presented svc.cookieName = some id →
        (CookieJar.ofHeaders r.headers).presented svc.cookieName = some id →
        svc.LogsNobodyIn r w' response) :
      Meanwhile svc b w b' w''

theorem Meanwhile.reaches (h : svc.Meanwhile b w b' w') : svc.Reaches w w' := by
  induction h with
  | refl => exact .refl
  | elapse _ ms outside ih => exact ih.elapse ms outside
  | own _ _ run _ ih => exact ih.serve run
  | other _ run _ ih => exact ih.serve run

/-! ### Set-up -/

theorem Remembering.of_service {around : World.Surroundings α} {w₀ : World α}
    (hstart : Yields (Deployment.service (around.resources ids) settings).run w₀ (.ok svc) w)
    (hbackend : settings.session.backend = .memory) (henabled : settings.rememberMe.enabled = true)
    (hsession : IsCookieName settings.session.cookieName)
    (htoken : IsCookieName settings.rememberMe.cookieName)
    (hdistinct : settings.rememberMe.cookieName ≠ settings.session.cookieName) :
    svc.Remembering ids settings ∧ w.Sound ids := by
  obtain ⟨hstart, hname, hclock⟩ := Deployment.of_service hstart
  obtain ⟨v, hw, hcommand⟩ := Deployment.of_start hstart hbackend
  have hreads : ∀ w, ∃ now, Yields (around.resources ids).clock w now w :=
    fun w => ⟨around.date w, rfl⟩
  have hempty : w.store = { ttl := settings.session.ttlSeconds } := by rw [hw]
  refine ⟨⟨?_, henabled, hname ▸ hsession, htoken, hname ▸ hdistinct⟩, World.sound_of_empty hempty⟩
  rw [hclock]
  exact Deployment.over_of_command hcommand henabled hreads

variable (hsvc : svc.Remembering ids settings)
include hsvc

/-- Whatever happens, the sessions stay in order. -/
theorem Reaches.sound (h : svc.Reaches w w') (hw : w.Sound ids) : w'.Sound ids := by
  induction h with
  | refl => exact hw
  | elapse _ ms outside ih => exact ⟨ih.store, ih.drawn⟩
  | serve _ run ih =>
    obtain ⟨new, hmoves⟩ := serve_moves hsvc run ih
    exact hmoves.sound

/-! ### The logout and after -/

omit hsvc in
/-- Nobody is logged in with a browser: it brings no token, and nobody is in the session that it
brings, if that is of any meaning. -/
structure LoggedOut (ids : Nat → SessionId) (settings : Settings)
    (svc : LoginService (World.Run α)) (b : Browser) (w : World α) : Prop where
  sound : w.Sound ids
  regular : b.Regular [svc.cookieName, settings.rememberMe.cookieName]
  token : b.jar.received? settings.rememberMe.cookieName = none
  idle : settings.login.mode = .perSession → Idle ids w (b.jar.presented svc.cookieName)

omit hsvc in
theorem context_send (hbare : headerValues "cookie" r.headers = []) (b : Browser) :
    svc.context (b.send r) = b.jar.requestContext svc.cookieName := by
  rw [context, Browser.ofHeaders_send_bare hbare]

/-- A browser brings no token from then on if the context of its request queues the removal of any
that it has brought, and it is as good as logged out if nobody is in the session that is left. -/
theorem LoggedOut.of_told {now : Timestamp} {ctx : RequestContext} (hw : w.Sound ids)
    (hregular : b.Regular [svc.cookieName, settings.rememberMe.cookieName])
    (hbare : headerValues "cookie" r.headers = [])
    (htold : response.setCookies = svc.toldOf (b.send r) now ctx) (hctx : ctx.OnlyRemovals)
    (hqueued : (b.jar.received? settings.rememberMe.cookieName).isSome = true →
      ∃ c ∈ ctx.responseCookies, c.name = settings.rememberMe.cookieName)
    (hplain : isPlain b.line = true ∨ ctx.sessionId = none)
    (hidle : settings.login.mode = .perSession → Idle ids w ctx.sessionId) :
    LoggedOut ids settings svc (b.update response) w := by
  have hupdate : b.update response = b.written svc.cookieName now (LoginCommand.finish ctx) := by
    show response.setCookies.foldl Browser.receive b = _
    rw [htold, toldOf, Browser.ofHeaders_send_bare hbare]
    rfl
  have hsession : svc.cookieName ∈ [svc.cookieName, settings.rememberMe.cookieName] :=
    List.mem_cons_self
  have htoken : settings.rememberMe.cookieName ∈
      [svc.cookieName, settings.rememberMe.cookieName] := List.mem_cons_of_mem _ List.mem_cons_self
  have hfinished : ∀ c ∈ (LoginCommand.finish ctx).responseCookies, c.isRemoval = true := hctx
  rw [hupdate]
  obtain ⟨hkept, hpresented⟩ :=
    Browser.presented_written hregular hsession hsvc.session hfinished now
  refine ⟨hw, hkept, ?_, fun hmode id hid => hidle hmode id (hpresented id hid)⟩
  exact Browser.received?_written hregular hsession hsvc.session hfinished htoken
    hsvc.token.ne_empty hsvc.distinct hqueued hplain now

/-- A logout that is answered well logs the browser out. -/
theorem LoggedOut.of_logout (hw : w.Sound ids)
    (hregular : b.Regular [svc.cookieName, settings.rememberMe.cookieName])
    (hr : r.Asks .logout) (hbare : headerValues "cookie" r.headers = [])
    (h : Yields (svc.serve (b.send r)) w response w') (hok : response.status = 200) :
    LoggedOut ids settings svc (b.update response) w' := by
  obtain ⟨ctx, now, htold, hctx, hqueued, hidle, hnone⟩ :=
    serve_of_logout_ok hsvc (hr.send b) h hw hok
  obtain ⟨new, hmoves⟩ := serve_moves hsvc h hw
  refine .of_told hsvc hmoves.sound hregular hbare htold hctx (fun _ => hqueued) ?_ hidle
  by_cases hplain : isPlain b.line = true
  · exact .inl hplain
  · -- Such a browser brings nothing.
    rw [context_send hbare] at hnone
    exact .inr (hnone (Browser.presented_of_not_plain hplain _)
      (Browser.received?_jar_of_not_plain hplain _))

/-- In the scope of a request of such a browser, nobody is found. -/
theorem LoggedOut.nobody (h : LoggedOut ids settings svc b w)
    (hbare : headerValues "cookie" r.headers = []) {ctx : RequestContext}
    {result : Except ScopeError Unit}
    (hscope : Yields (svc.command.scope (svc.context (b.send r))) w (ctx, result) w') :
    ctx.principal = none := by
  rw [context_send hbare] at hscope
  refine ((LoginCommand.scope_of_yields hsvc.command h.sound hscope).nobody rfl ?_ h.token).1
  exact fun hb id hid => (h.idle (Deployment.perSession_of_binderOf hb) id hid).2

/-- It stays logged out when it makes a request that does not log it in. -/
theorem LoggedOut.own (h : LoggedOut ids settings svc b w)
    (hbare : headerValues "cookie" r.headers = [])
    (hrun : Yields (svc.serve (b.send r)) w response w') (hquiet : ¬b.MayLogIn r response) :
    LoggedOut ids settings svc (b.update response) w' := by
  obtain ⟨new, hmoves⟩ := serve_moves hsvc hrun h.sound
  obtain ⟨hcalm, htold⟩ := serve_leaves hsvc hrun h.sound (h.nobody hsvc hbare)
    fun hlogin hok => hquiet ⟨hlogin, .inl hok⟩
  rcases htold with huntold | ⟨ctx, now, htold, hleaves⟩
  · have hsame : b.update response = b := by
      show response.setCookies.foldl Browser.receive b = b
      rw [huntold]
      rfl
    rw [hsame]
    exact ⟨hmoves.sound, h.regular, h.token, fun hmode => (h.idle hmode).mono (hcalm hmode)⟩
  · rw [context_send hbare] at hleaves
    refine .of_told hsvc hmoves.sound h.regular hbare htold hleaves.onlyRemovals
      (fun hsome => by rw [h.token] at hsome; cases hsome) ?_
      fun hmode => (hleaves.settles hmode).idle (h.idle hmode)
    by_cases hplain : isPlain b.line = true
    · exact .inl hplain
    · have hstatus (hlogin : (b.send r).TargetsLogin) : response.status < 500 :=
        Nat.not_le.1 fun hle => hquiet ⟨hlogin, .inr ⟨hle, hplain⟩⟩
      rcases hleaves.stays hstatus with hsame | hgone
      · exact .inr (hsame.trans (Browser.presented_of_not_plain hplain _))
      · exact .inr hgone

/-- It stays logged out when others make requests, if none of them logs anybody in with its
session. -/
theorem LoggedOut.other (h : LoggedOut ids settings svc b w)
    (hrun : Yields (svc.serve r) w response w') (hids : Set.InjOn ids (Set.Iio w'.drawn))
    (hquiet : ∀ id, b.jar.presented svc.cookieName = some id →
      (CookieJar.ofHeaders r.headers).presented svc.cookieName = some id →
      svc.LogsNobodyIn r w response) : LoggedOut ids settings svc b w' := by
  obtain ⟨new, hmoves⟩ := serve_moves hsvc hrun h.sound
  refine ⟨hmoves.sound, h.regular, h.token, fun hmode id hid => ?_⟩
  obtain ⟨hdrawn, hvacant⟩ := h.idle hmode id hid
  refine ⟨hdrawn.mono hmoves.drawn, ?_⟩
  by_cases hshared : (CookieJar.ofHeaders r.headers).presented svc.cookieName = some id
  · obtain ⟨hnobody, hlogin⟩ := hquiet id hid hshared
    exact ((serve_leaves hsvc hrun h.sound hnobody hlogin).1 hmode).vacant hvacant
  · -- The id was drawn before, so the request has not ended in that session either.
    exact hmoves.kept hshared (hmoves.ne_of_drawn hids hdrawn hshared) hvacant

theorem LoggedOut.meanwhile (h : LoggedOut ids settings svc b w) (hmean : svc.Meanwhile b w b' w')
    (hids : Set.InjOn ids (Set.Iio w'.drawn)) : LoggedOut ids settings svc b' w' := by
  induction hmean with
  | refl => exact h
  | elapse before ms outside ih =>
    have hbefore := ih hids
    exact ⟨⟨hbefore.sound.store, hbefore.sound.drawn⟩, hbefore.regular, hbefore.token,
      hbefore.idle⟩
  | own before bare run quiet ih =>
    obtain ⟨new, hmoves⟩ := serve_moves hsvc run (before.reaches.sound hsvc h.sound)
    exact (ih (hids.mono fun n hn => Nat.lt_of_lt_of_le hn hmoves.drawn)).own hsvc bare run quiet
  | other before run quiet ih =>
    obtain ⟨new, hmoves⟩ := serve_moves hsvc run (before.reaches.sound hsvc h.sound)
    exact (ih (hids.mono fun n hn => Nat.lt_of_lt_of_le hn hmoves.drawn)).other hsvc run hids quiet

/-! ### What the browser is answered -/

omit hsvc in
/-- A request is answered once its scope and its action have come to an end. -/
theorem serve_of_operation {a : Action} (hr : r.Asks a) {ctx ctx' : RequestContext}
    {answer : Response} {now : Timestamp} {w₂ : World α}
    (hscope : Yields (svc.command.scope (svc.context r)) w (ctx, .ok ()) w₁)
    (hoperation : Yields (svc.operation a ctx) w₁ (ctx', answer) w₂)
    (hclock : Yields svc.clock w₂ now w₂) :
    ∃ jar : CookieJar, Yields (svc.serve r) w
      ((answer.withHeaders jar.headers).withHeaders (svc.corsHeaders r)) w₂ := by
  have hserve := inScope_yields hscope hoperation hclock
  generalize (CookieJar.writeContext _ _ _ _ _).1 = jar at hserve
  rw [serve_eq svc hr]
  exact ⟨jar, hserve.bind (.pure _ _)⟩

/-- A query is answered as one of nobody. -/
theorem LoggedOut.serve_yields (h : LoggedOut ids settings svc b w) (c : Call)
    {answer : Response} (hquery : ∀ ctx : RequestContext, ctx.principal = none →
      svc.operation c.action ctx = pure (ctx, answer)) :
    ∃ response w', Yields (svc.serve (b.send c.request)) w response w' ∧
      response.reply = answer.reply := by
  have hvacant : settings.login.mode = .perSession →
      ∀ id, (svc.context (b.send c.request)).sessionId = some id → w.Vacant id := by
    rw [context_send c.bare]
    exact fun hmode id hid => (h.idle hmode id hid).2
  have htoken : (svc.context (b.send c.request)).requestCookie?
      settings.rememberMe.cookieName = none := by
    rw [context_send c.bare]
    exact h.token
  obtain ⟨ctx, w₁, hscope, hnobody⟩ :=
    LoginCommand.scope_of_nobody hsvc.command h.sound rfl hvacant htoken
  have hoperation : Yields (svc.operation c.action ctx) w₁ (ctx, answer) w₁ := by
    rw [hquery ctx hnobody]
    exact .pure _ _
  obtain ⟨now, hnow⟩ := hsvc.command.clock w₁
  obtain ⟨jar, hserve⟩ := serve_of_operation (c.asks.send b) hscope hoperation hnow
  exact ⟨_, w₁, hserve, reply_response svc (b.send c.request) answer jar⟩

theorem LoggedOut.principal (h : LoggedOut ids settings svc b w) {c : Call}
    (hc : c.action = .principal) :
    ∃ response w', Yields (svc.serve (b.send c.request)) w response w' ∧
      response.status = 401 := by
  have hquery (ctx : RequestContext) (hnobody : ctx.principal = none) :
      svc.operation c.action ctx = pure (ctx, ApiError.notAuthenticated.response) := by
    simp only [hc, operation, hnobody]
  obtain ⟨response, w', hserve, hreply⟩ := h.serve_yields hsvc c hquery
  exact ⟨response, w', hserve, congrArg Reply.status (hreply.trans reply_nobody)⟩

theorem LoggedOut.authorize (h : LoggedOut ids settings svc b w) {c : Call}
    {roles : List Authority} (hc : c.action = .authorize roles) :
    ∃ response w', Yields (svc.serve (b.send c.request)) w response w' ∧
      response.status = 200 ∧
      response.document? = some (.object [("authorized", .bool false)]) := by
  have hquery (ctx : RequestContext) (hnobody : ctx.principal = none) :
      svc.operation c.action ctx = pure (ctx, .json 200 (Json.printObject
        [("authorized", toString false)])) := by
    simp only [hc, operation, hnobody, LoginCommand.authorizes, isAuthorized_none]
  obtain ⟨response, w', hserve, hreply⟩ := h.serve_yields hsvc c hquery
  have hanswer := hreply.trans (reply_authorized false)
  exact ⟨response, w', hserve, congrArg Reply.status hanswer, congrArg Reply.document hanswer⟩

end LoginService

/-- After a logout that is answered well, whatever cookies the browser held before it and whatever
state the service was in, and until somebody logs in with the browser again: a question who is
logged in is answered with the status 401, and a question for roles that none is held. The ids that
were drawn must differ. -/
theorem LoginService.nobody_after_logout {around : World.Surroundings α} {w₀ w₂ w₃ : World α}
    (hstart : Yields (Deployment.service (around.resources ids) settings).run w₀ (.ok svc) w)
    (hbackend : settings.session.backend = .memory) (henabled : settings.rememberMe.enabled = true)
    (hsession : IsCookieName settings.session.cookieName)
    (htoken : IsCookieName settings.rememberMe.cookieName)
    (hdistinct : settings.rememberMe.cookieName ≠ settings.session.cookieName)
    (hreaches : svc.Reaches w w₁)
    (hregular : b.Regular [settings.session.cookieName, settings.rememberMe.cookieName])
    (hr : r.Asks .logout) (hbare : headerValues "cookie" r.headers = [])
    (hlogout : Yields (svc.serve (b.send r)) w₁ response w₂) (hok : response.status = 200)
    (hmean : svc.Meanwhile (b.update response) w₂ b' w₃)
    (hids : Set.InjOn ids (Set.Iio w₃.drawn)) (c : Call) :
    (c.action = .principal → ∃ response w', Yields (svc.serve (b'.send c.request)) w₃ response w' ∧
      response.status = 401) ∧
    ∀ roles, c.action = .authorize roles →
      ∃ response w', Yields (svc.serve (b'.send c.request)) w₃ response w' ∧
        response.status = 200 ∧
        response.document? = some (.object [("authorized", .bool false)]) := by
  obtain ⟨hsvc, hw⟩ :=
    Remembering.of_service hstart hbackend henabled hsession htoken hdistinct
  have hname : svc.cookieName = settings.session.cookieName := (Deployment.of_service hstart).2.1
  have hout : LoggedOut ids settings svc (b.update response) w₂ :=
    .of_logout hsvc (hreaches.sound hsvc hw) (hname ▸ hregular) hr hbare hlogout hok
  have hstill := hout.meanwhile hsvc hmean hids
  exact ⟨hstill.principal hsvc, fun roles hc => hstill.authorize hsvc hc⟩

/-- Settings that keep sessions in memory and remember logins. -/
def tokenSettings : Settings :=
  { smallSettings with
    rememberMe :=
      { enabled := true, cookieName := "remember-me", secret := "secret", ttlSeconds := 600 } }

/-- A service with these settings. -/
def tokenService : LoginService (World.Run Unit) where
  command :=
    { config := Deployment.loginConfig tokenSettings
        (openSurroundings.resources World.counting).clock (World.sessionStore World.counting)
        (World.liftVerifier ⟨fun c => pure (.ok ⟨c.username.text, .empty⟩)⟩)
      started := some ⟨Deployment.logoutHandlers tokenSettings
          (World.sessionStore World.counting), .perSession (World.sessionStore World.counting)⟩ }
  cookieName := "SESSION"
  origins := none
  clock := (openSurroundings.resources World.counting).clock

/-- A browser with the session of a login, and with a token that nobody has issued. -/
def forger : Browser :=
  [{ name := "SESSION", value := (World.counting 1).text, path := some "/" },
    { name := "remember-me", value := "forged", path := some "/" }]

/-- What the browser brings with a request. -/
def forgerContext : RequestContext where
  sessionId := some (World.counting 1)
  requestCookies := [("remember-me", "forged"), ("SESSION", (World.counting 1).text)]

/-- A request to log out. -/
def byeRequest : Request := { method := .post, target := "/logout" }

/-- The world after somebody has logged in for the first time. -/
def entered : World Unit :=
  ⟨⟨60, [(World.counting 1, ⟨⟨World.counting 1, some World.alice⟩, 60000⟩)]⟩, 0, 2, ()⟩

theorem reaches_entered : tokenService.Reaches ⟨{ ttl := 60 }, 0, 0, ()⟩ entered := by
  have hlogin : ∃ ctx answer, Yields (tokenService.operation (.login "alice" "pw") .empty)
      ⟨{ ttl := 60 }, 0, 0, ()⟩ (ctx, answer) entered := ⟨_, _, rfl⟩
  obtain ⟨ctx, answer, hlogin⟩ := hlogin
  have hcontext : tokenService.context loginRequest = .empty := by decide +kernel
  have hscope : Yields (tokenService.command.scope (tokenService.context loginRequest))
      ⟨{ ttl := 60 }, 0, 0, ()⟩ (.empty, .ok ()) ⟨{ ttl := 60 }, 0, 0, ()⟩ := by
    rw [hcontext]
    rfl
  have hclock : Yields tokenService.clock entered ⟨0⟩ entered := rfl
  have hasks : loginRequest.Asks (.login "alice" "pw") :=
    @Request.Asks.login loginRequest ⟨"alice", "pw"⟩ rfl (by decide) (by decide +kernel)
  obtain ⟨jar, hserve⟩ := LoginService.serve_of_operation hasks hscope hlogin hclock
  exact .serve .refl hserve

/-- The browser logs out, and a second later nobody is logged in with it. -/
theorem nobody_after_logout_forged : ∃ response w₂ response' w',
    Yields (tokenService.serve (forger.send byeRequest)) entered response w₂ ∧
    Yields (tokenService.serve ((forger.update response).send
        { method := .get, target := "/principal" }))
      { w₂ with clock := w₂.clock + 1000 } response' w' ∧
    response'.status = 401 := by
  have hstart : Yields (Deployment.service (openSurroundings.resources World.counting)
      tokenSettings).run ⟨{ ttl := 1 }, 0, 0, ()⟩ (.ok tokenService)
        ⟨{ ttl := 60 }, 0, 0, ()⟩ := rfl
  have hcontext : tokenService.context (forger.send byeRequest) = forgerContext := by
    decide +kernel
  have hscope : Yields (tokenService.command.scope (tokenService.context (forger.send byeRequest)))
      entered ({ forgerContext with principal := some World.alice }, .ok ()) entered := by
    rw [hcontext]
    rfl
  have hlogout : ∃ ctx answer w₂, Yields (tokenService.operation .logout
      { forgerContext with principal := some World.alice }) entered (ctx, answer) w₂ ∧
        answer.status = 200 ∧ w₂.drawn = 2 := ⟨_, _, _, rfl, rfl, rfl⟩
  obtain ⟨ctx, answer, w₂, hlogout, hok, hdrawn⟩ := hlogout
  have hclock : Yields tokenService.clock w₂ ⟨0⟩ w₂ := rfl
  have hasks : byeRequest.Asks .logout := .logout rfl (by decide)
  obtain ⟨jar, hserve⟩ :=
    LoginService.serve_of_operation (hasks.send forger) hscope hlogout hclock
  have hregular : forger.Regular ["SESSION", "remember-me"] :=
    .of_placed (by
      intro c hc
      rcases List.mem_cons.1 hc with rfl | hc
      · exact ⟨⟨"SESSION", by decide, by decide +kernel⟩, by decide +kernel, rfl⟩
      · obtain rfl := List.mem_singleton.1 hc
        exact ⟨⟨"remember-me", by decide, by decide +kernel⟩, by decide +kernel, rfl⟩) _
  obtain ⟨response', w', hquery, hstatus⟩ := (LoginService.nobody_after_logout hstart rfl rfl
    (IsCookieName.of_token (by decide) (by decide)) (IsCookieName.of_token (by decide) (by decide))
    (by decide) reaches_entered hregular hasks rfl hserve hok (.elapse .refl 1000 ())
    (World.injOn_counting (by rw [hdrawn]; decide))
    ⟨{ method := .get, target := "/principal" }, .principal, .principal rfl (by decide), rfl⟩).1 rfl
  exact ⟨_, w₂, response', w', hserve, hquery, hstatus⟩

end Http

end WebLogin
