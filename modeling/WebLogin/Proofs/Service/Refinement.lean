/-
The login service refines the simple machine.

A world, the browsers and the machine agree when each browser holds the cookie of a session of its
own, and whoever is logged in with that session is logged in according to the machine. One call
keeps the agreement, and so does time that passes.

* `LoginService.Hosted.serve_yields` — one call: the response gives the answer of the machine;
* `Agrees.wait`, `Agrees.turn` — what keeps the agreement;
* `Browsers.run_yields` — the service and the machine stay in step over any run;
* `Browsers.run_refines` — the same for a service that was started from its settings.
-/
import WebLogin.Proofs.Authority
import WebLogin.Proofs.Login.Turns
import WebLogin.Proofs.Service.Responses
import WebLogin.Proofs.Service.Start

namespace WebLogin

namespace Http

variable {ι α : Type}

/-! ### The service and the machine -/

/-- A service over a store in memory, as settings with sessions and without remember-me or cookies
to clear set it up. -/
structure LoginService.Hosted (svc : LoginService (World.Run α)) (ids : Nat → SessionId)
    (v : Verifier (StateM α)) (ends : Bool) : Prop where
  name : IsCookieName svc.cookieName
  started : svc.command.started = some
    ⟨[.securityContext (some (World.sessionStore ids)) ends], .perSession (World.sessionStore ids)⟩
  verifier : svc.command.config.verifier = World.liftVerifier v
  strategy : svc.command.config.strategy = .changeId (World.sessionStore ids)
  rememberMe : svc.command.config.rememberMe = .null
  clock : ∀ w, ∃ t, Yields svc.clock w t w

/-- The world, the browsers and the machine agree: each browser holds the cookie of a session that
was drawn for it alone, or none, and whoever is logged in with that session is logged in according
to the machine, with the same deadline. -/
structure Agrees (ids : Nat → SessionId) (most ttl k : Nat) (w : World α)
    (held : ι → Option SessionId) (m : LoginMachine ι α) : Prop where
  valid : (World.model ids most ttl m.clock m.outside).valid k w
  known : ∀ b id, held b = some id → ∃ i < w.drawn, ids i = id
  distinct : ∀ b b' id, held b = some id → held b' = some id → b = b'
  login : ∀ b, (held b).bind ((World.model ids most ttl m.clock m.outside).login? w) = m.login? b

variable {ids : Nat → SessionId} {most ttl k : Nat} {w : World α} {v : Verifier (StateM α)}
  {ends : Bool} {svc : LoginService (World.Run α)}

/-- At the start, no browser holds a cookie and there is no session. -/
theorem Agrees.begun (hstore : w.store = { ttl }) (hmost : w.drawn + k ≤ most) :
    Agrees ids most ttl k w (fun _ : ι => none) ⟨w.clock, fun _ => none, w.outside⟩ := by
  exact ⟨⟨World.sound_of_empty hstore, rfl, by rw [hstore], rfl, hmost⟩, by simp, by simp,
    fun _ => rfl⟩

theorem Agrees.weaken {held : ι → Option SessionId} {m : LoginMachine ι α} {k' : Nat}
    (h : Agrees ids most ttl k w held m) (hle : k' ≤ k) : Agrees ids most ttl k' w held m :=
  { h with valid := World.valid_mono h.valid hle }

/-- When time passes, the sessions run out that run out for the machine. -/
theorem Agrees.wait {held : ι → Option SessionId} {m : LoginMachine ι α}
    (h : Agrees ids most ttl k w held m) (ms : Nat) :
    Agrees ids most ttl k { w with clock := w.clock + ms } held
      { m with clock := m.clock + ms } where
  valid := by
    obtain ⟨hsound, hclock, httl, hout, hdrawn⟩ := h.valid
    exact ⟨⟨hsound.store, hsound.drawn⟩, congrArg (· + ms) hclock, httl, hout, hdrawn⟩
  known := h.known
  distinct := h.distinct
  login b := by
    have hlogin := h.login b
    have hle : m.clock ≤ m.clock + ms := Nat.le_add_right ..
    rw [LoginMachine.login?] at hlogin ⊢
    cases hheld : held b with
    | none =>
      rw [hheld, Option.bind_none] at hlogin
      rw [Option.bind_none, eq_comm, Option.filter_eq_none_iff]
      intro l hl hlater
      exact Option.filter_eq_none_iff.1 hlogin.symm l hl
        (decide_eq_true (Nat.lt_of_le_of_lt hle (of_decide_eq_true hlater)))
    | some id =>
      rw [hheld, Option.bind_some] at hlogin
      have hlater : (World.model ids most ttl (m.clock + ms) m.outside).login? w id =
          ((World.model ids most ttl m.clock m.outside).login? w id).filter
            fun l => decide (m.clock + ms < l.2) := World.login?_later hle w id
      rw [Option.bind_some]
      refine hlater.trans ?_
      rw [hlogin, Option.filter_filter]
      congr 1
      funext l
      rw [← Bool.decide_and, decide_eq_decide]
      exact ⟨And.right, fun hl => ⟨Nat.lt_of_le_of_lt hle hl, hl⟩⟩

/-! ### Logging in -/

/-- An attempt fails because of the name, or its result is what the verdict of the verifier
means. -/
theorem attempt_cases {username password : String} {outside outside' : α}
    {result : Except LoginFailure Principal}
    (h : (attempt v username password).run outside = (result, outside')) :
    (∃ e, Credential.parse username password = .error e ∧
        result = .error ⟨.unknownIdentity, e.message⟩ ∧ outside' = outside) ∨
      ∃ credential verdict, Credential.parse username password = .ok credential ∧
        (v.verify credential).run outside = (verdict, outside') ∧ result = judge verdict := by
  rw [attempt] at h
  cases hparse : Credential.parse username password with
  | error e =>
    rw [hparse] at h
    obtain ⟨rfl, rfl⟩ := Prod.mk.inj h
    exact .inl ⟨e, rfl, rfl, rfl⟩
  | ok credential =>
    rw [hparse] at h
    obtain ⟨rfl, rfl⟩ := Prod.mk.inj h
    exact .inr ⟨credential, _, rfl, rfl, rfl⟩

/-- A turn in which only the verifier works. -/
theorem turn_outside {now : Uptime} {outside : α} (outside' : α)
    (hw : (World.model ids most ttl now outside).valid (k + 2) w) {old : Option SessionId}
    (hknown : ∀ id, old = some id → ∃ i < w.drawn, ids i = id) :
    (World.model ids most ttl now outside').Turn k w old old { w with outside := outside' } where
  valid := World.valid_outside outside' (World.valid_mono hw (Nat.le_add_right k 2))
  origin _ hid := .inl hid
  known := hknown
  known_mono _ hid := hid
  others _ _ _ := rfl

/-- Who takes part in the logins of a hosted service. -/
def hostedAuthentication (ids : Nat → SessionId) (v : Verifier (StateM α)) :
    Authentication (World.Run α) :=
  ⟨World.liftVerifier v, .perSession (World.sessionStore ids),
    .changeId (World.sessionStore ids), .null⟩

theorem LoginService.Hosted.login_of_run (h : svc.Hosted ids v ends) {w' : World α}
    {ctx ctx' : RequestContext} {username password : String} {r : Except LoginFailure Principal}
    (hrun : Yields ((hostedAuthentication ids v).run ctx username password) w (ctx', r) w') :
    Yields (svc.command.login ctx username password) w (ctx', r.mapError .failed) w' := by
  have ha : svc.command.authentication ⟨[.securityContext (some (World.sessionStore ids)) ends],
      .perSession (World.sessionStore ids)⟩ = hostedAuthentication ids v := by
    rw [LoginCommand.authentication, h.verifier, h.strategy, h.rememberMe]
    rfl
  simp only [LoginCommand.login, h.started, ha]
  exact hrun.bind (Yields.pure _ _)

/-- What an attempt to log in does: it gives the result of the attempt, and the request moves to a
new session if that is a principal. -/
theorem LoginService.Hosted.login_yields (h : svc.Hosted ids v ends)
    (hids : Set.InjOn ids (Set.Iio most)) {now : Uptime}
    (hclock : now / 1000 + ttl ≤ Uptime.lastSecond) (httl : 1 ≤ ttl) {outside : α}
    (hw : (World.model ids most ttl now outside).valid (k + 2) w) {username password : String}
    (ctx : RequestContext) (hknown : ∀ id, ctx.sessionId = some id → ∃ i < w.drawn, ids i = id)
    {result : Except LoginFailure Principal} {outside' : α}
    (hattempt : (attempt v username password).run outside = (result, outside')) :
    ∃ ctx' w', Yields (svc.command.login ctx username password) w
        (ctx', result.mapError .failed) w' ∧
      ctx'.responseCookies = ctx.responseCookies ∧
      (World.model ids most ttl now outside').Turn k w ctx.sessionId ctx'.sessionId w' ∧
      (∀ p, result = .ok p → ctx'.sessionId.bind
        ((World.model ids most ttl now outside').login? w') = some (p, now + 1000 * ttl)) ∧
      (∀ f, result = .error f → ctx' = ctx ∧ (World.model ids most ttl now outside').view w' =
        (World.model ids most ttl now outside).view w) := by
  obtain rfl : w.outside = outside := hw.2.2.2.1
  rcases attempt_cases hattempt with ⟨e, hparse, rfl, rfl⟩ |
    ⟨credential, verdict, hparse, hverdict, rfl⟩
  · refine ⟨ctx, w, h.login_of_run ?_, rfl, turn_outside w.outside hw hknown,
      fun p hok => (by cases hok), fun _ _ => ⟨rfl, rfl⟩⟩
    simp only [Authentication.run, hparse]
    exact Yields.bind (Yields.pure _ _) (Yields.pure _ _)
  · have hverify : Yields ((World.liftVerifier v).verify credential) w verdict
        { w with outside := outside' } := by
      have hlift := World.elsewhere_yields (v.verify credential) w
      rwa [hverdict] at hlift
    cases verdict with
    | error e =>
      -- A rejected login only lets the verifier work.
      refine ⟨ctx, { w with outside := outside' }, h.login_of_run ?_, rfl,
        turn_outside outside' hw hknown, fun p hok => (by cases hok), fun _ _ => ⟨rfl, rfl⟩⟩
      simp only [Authentication.run, hparse]
      refine Yields.bind hverify ?_
      exact Yields.bind (Yields.pure _ _) (Yields.pure _ _)
    | ok identity =>
      obtain ⟨new, w', hcomplete, hturn, hlogin⟩ := Authentication.complete_turn
        (World.laws hids hclock httl fun _ => False) (World.valid_outside outside' hw)
        (a := hostedAuthentication ids v) rfl rfl rfl ctx (.ofIdentity identity)
      refine ⟨(ctx.bindPrincipal (.ofIdentity identity)).withSession (some new), w',
        h.login_of_run ?_, rfl, ⟨hturn.valid, hturn.origin, hturn.known, hturn.known_mono,
        hturn.others⟩, fun p hp => ?_, fun _ herror => by cases herror⟩
      · simp only [Authentication.run, hparse]
        exact Yields.bind hverify hcomplete
      · rw [← Except.ok.inj hp]
        exact hlogin

/-! ### Scopes and operations -/

/-- In its scope, a request is logged in as whoever the machine knows, and it still has its session
if that is there. -/
theorem LoginService.Hosted.scope_yields (h : svc.Hosted ids v ends)
    (hids : Set.InjOn ids (Set.Iio most)) (httl : 1 ≤ ttl) {m : LoginMachine ι α} {b : ι}
    (hclock : m.clock / 1000 + ttl ≤ Uptime.lastSecond)
    (hw : (World.model ids most ttl m.clock m.outside).valid k w) {ctx : RequestContext}
    (hnobody : ctx.principal = none)
    (hknown : ∀ id, ctx.sessionId = some id → ∃ i < w.drawn, ids i = id)
    (hlogin : ctx.sessionId.bind ((World.model ids most ttl m.clock m.outside).login? w) =
      m.login? b) :
    ∃ mid w₁, Yields (svc.command.scope ctx) w (mid, .ok ()) w₁ ∧
      (World.model ids most ttl m.clock m.outside).Same k w w₁ ∧
      mid.responseCookies = ctx.responseCookies ∧
      (∀ id, mid.sessionId = some id → ctx.sessionId = some id) ∧
      (∀ id, mid.sessionId = some id → ∃ i < w₁.drawn, ids i = id) ∧
      mid.sessionId.bind ((World.model ids most ttl m.clock m.outside).login? w₁) = m.login? b ∧
      mid.principal = m.current b := by
  obtain ⟨w₁, hscope, hsame⟩ := LoginCommand.scope_yields_restored
    (World.laws hids hclock httl fun _ => False) hw h.started h.rememberMe hnobody
  have hlost (id : SessionId) (hid : (LoginCommand.restored (World.model ids most ttl m.clock
      m.outside) w ctx).sessionId = some id) : ctx.sessionId = some id :=
    (Option.filter_eq_some_iff.1 hid).1
  refine ⟨_, w₁, hscope, hsame, rfl, hlost, fun id hid => ?_, ?_, ?_⟩
  · have hdrawn : (World.model ids most ttl m.clock m.outside).known w₁ id := by
      rw [hsame.known]
      exact hknown id (hlost id hid)
    exact hdrawn
  · have hview : (World.model ids most ttl m.clock m.outside).login? w₁ =
        (World.model ids most ttl m.clock m.outside).login? w := by
      funext id
      rw [StoreModel.login?, hsame.view, StoreModel.login?]
    rw [hview, ← hlogin]
    exact LoginCommand.filter_bind_login? _ w ctx.sessionId
  · rw [LoginMachine.current, ← hlogin]
    show ctx.sessionId.bind _ = _
    cases ctx.sessionId with
    | none => rfl
    | some id => exact StoreModel.holder_eq _ w id

variable [DecidableEq ι]

/-- What an operation does in the scope of a request: it gives the answer of the machine, and
whoever is logged in with the session that the request leaves with is who is logged in according to
the machine. -/
theorem LoginService.Hosted.operation_yields (h : svc.Hosted ids v ends)
    (hids : Set.InjOn ids (Set.Iio most)) (httl : 1 ≤ ttl) {m : LoginMachine ι α} {b : ι}
    (hclock : m.clock / 1000 + ttl ≤ Uptime.lastSecond)
    (hw : (World.model ids most ttl m.clock m.outside).valid (k + 2) w) {ctx : RequestContext}
    (hknown : ∀ id, ctx.sessionId = some id → ∃ i < w.drawn, ids i = id)
    (hlogin : ctx.sessionId.bind ((World.model ids most ttl m.clock m.outside).login? w) =
      m.login? b) (hcurrent : ctx.principal = m.current b) (action : Action)
    {a : Answer} {m' : LoginMachine ι α} (hanswer : m.answer v ttl b action = (a, m')) :
    ∃ ctx' response w', Yields (svc.operation action ctx) w (ctx', response) w' ∧
      response.setCookies = [] ∧ response.reply = a.reply ∧
      ctx'.responseCookies = ctx.responseCookies ∧
      (World.model ids most ttl m.clock m'.outside).Turn k w ctx.sessionId ctx'.sessionId w' ∧
      ctx'.sessionId.bind ((World.model ids most ttl m.clock m'.outside).login? w') =
        m'.login? b ∧
      m'.clock = m.clock ∧ ∀ b' ≠ b, m'.logins b' = m.logins b' := by
  have hlaws : (World.model ids most ttl m.clock m.outside).Laws (World.sessionStore ids)
      fun _ => False := World.laws hids hclock httl _
  have hw₀ := hlaws.weaken (hlaws.weaken hw)
  have hstay :
      (World.model ids most ttl m.clock m.outside).Turn k w ctx.sessionId ctx.sessionId w :=
    StoreModel.Same.turn (.refl hw₀) (fun _ hid => hid) hknown
  cases action with
  | login username password =>
    rcases hattempt : (attempt v username password).run m.outside with ⟨result, outside'⟩
    obtain ⟨ctx', w', hrun, hcookies, hturn, hok, herror⟩ :=
      h.login_yields hids hclock httl hw ctx hknown hattempt
    simp only [LoginMachine.answer, hattempt] at hanswer
    cases result with
    | ok p =>
      obtain ⟨rfl, rfl⟩ := hanswer
      refine ⟨ctx', _, w', hrun.bind (Yields.pure _ _), Response.setCookies_json _ _,
        reply_principal p, hcookies, hturn, ?_, rfl, fun b' hb' => Function.update_of_ne hb' _ _⟩
      refine (hok p rfl).trans ?_
      have hahead : m.clock < m.clock + 1000 * ttl := Nat.lt_add_of_pos_right (by omega)
      rw [LoginMachine.login?_withLogin]
      exact (Option.filter_some_pos (by exact decide_eq_true hahead)).symm
    | error f =>
      obtain ⟨rfl, rfl⟩ := hanswer
      obtain ⟨rfl, hview⟩ := herror f rfl
      refine ⟨ctx', _, w', hrun.bind (Yields.pure _ _), Response.setCookies_json _ _,
        reply_rejected f, rfl, hturn, ?_, rfl, fun _ _ => rfl⟩
      have hlogin' : (World.model ids most ttl m.clock outside').login? w' =
          (World.model ids most ttl m.clock m.outside).login? w := by
        funext id
        rw [StoreModel.login?, hview, StoreModel.login?]
      rw [hlogin', hlogin]
      rfl
  | logout =>
    obtain ⟨rfl, rfl⟩ := hanswer
    obtain ⟨new, w', hrun, hturn, hnobody⟩ :=
      LoginCommand.logout_turn hlaws hw₀ h.started hknown
    refine ⟨ctx.unbindPrincipal.withSession new, _, w', hrun.bind (Yields.pure _ _),
      Response.setCookies_json _ _, reply_loggedOut, rfl, hturn, ?_, rfl,
      fun b' hb' => Function.update_of_ne hb' _ _⟩
    exact hnobody.trans (LoginMachine.login?_withLogin m b none).symm
  | authorize roles =>
    obtain ⟨rfl, rfl⟩ := hanswer
    refine ⟨ctx, _, w, ?_, Response.setCookies_json _ _, reply_authorized _, rfl, hstay, hlogin,
      rfl, fun _ _ => rfl⟩
    have hauthorized : svc.command.authorizes ctx.principal roles =
        (m.current b).any fun p => roles.any p.hasAuthority := by
      rw [LoginCommand.authorizes, hcurrent]
      cases m.current b with
      | none => exact isAuthorized_none roles
      | some p => exact isAuthorized_some p roles
    simp only [LoginService.operation, hauthorized]
    exact Yields.pure _ _
  | principal =>
    obtain ⟨rfl, rfl⟩ := hanswer
    cases hlogged : m.current b with
    | none =>
      have hrun : Yields (svc.operation .principal ctx) w
          (ctx, ApiError.notAuthenticated.response) w := by
        simp only [LoginService.operation, hcurrent, hlogged]
        exact Yields.pure _ _
      exact ⟨ctx, _, w, hrun, Response.setCookies_json _ _, reply_nobody, rfl, hstay, hlogin, rfl,
        fun _ _ => rfl⟩
    | some p =>
      have hrun : Yields (svc.operation .principal ctx) w (ctx, .json 200 p.toJson) w := by
        simp only [LoginService.operation, hcurrent, hlogged]
        exact Yields.pure _ _
      exact ⟨ctx, _, w, hrun, Response.setCookies_json _ _, reply_principal p, rfl, hstay, hlogin,
        rfl, fun _ _ => rfl⟩

/-! ### Calls and runs -/

theorem LoginService.inScope_yields {r : Request}
    {operation : RequestContext → World.Run α (RequestContext × Response)}
    {ctx ctx' : RequestContext} {response : Response} {t : Timestamp} {w₁ w₂ : World α}
    (hscope : Yields (svc.command.scope
      ((CookieJar.ofHeaders r.headers).requestContext svc.cookieName)) w (ctx, .ok ()) w₁)
    (hoperation : Yields (operation ctx) w₁ (ctx', response) w₂)
    (hclock : Yields svc.clock w₂ t w₂) :
    Yields (svc.inScope r operation) w (response.withHeaders
      ((CookieJar.ofHeaders r.headers).writeContext svc.cookieName t
        ((CookieJar.ofHeaders r.headers).presented svc.cookieName)
        (LoginCommand.finish ctx')).1.headers) w₂ := by
  rw [inScope]
  exact hscope.bind (hoperation.bind (hclock.bind (Yields.pure _ _)))

/-- One call: the response gives the answer of the machine, and the browser is left with the
cookie of the session that belongs to what the machine remembers of it. -/
theorem LoginService.Hosted.serve_yields (h : svc.Hosted ids v ends)
    (hids : Set.InjOn ids (Set.Iio most)) (httl : 1 ≤ ttl) {m : LoginMachine ι α} {b : ι}
    (hclock : m.clock / 1000 + ttl ≤ Uptime.lastSecond)
    (hw : (World.model ids most ttl m.clock m.outside).valid (k + 2) w) {old : Option SessionId}
    (hknown : ∀ id, old = some id → ∃ i < w.drawn, ids i = id)
    (hlogin : old.bind ((World.model ids most ttl m.clock m.outside).login? w) = m.login? b)
    (c : Call) {a : Answer} {m' : LoginMachine ι α}
    (hanswer : m.answer v ttl b c.action = (a, m')) :
    ∃ response new w', Yields
        (svc.serve ((Browser.holding svc.cookieName old).send c.request)) w response w' ∧
      response.reply = a.reply ∧
      (Browser.holding svc.cookieName old).update response = Browser.holding svc.cookieName new ∧
      (World.model ids most ttl m.clock m'.outside).Turn k w old new w' ∧
      new.bind ((World.model ids most ttl m.clock m'.outside).login? w') = m'.login? b ∧
      m'.clock = m.clock ∧ ∀ b' ≠ b, m'.logins b' = m.logins b' := by
  generalize hr : (Browser.holding svc.cookieName old).send c.request = r
  have hjar : CookieJar.ofHeaders r.headers = Browser.received svc.cookieName old := by
    rw [← hr]
    exact Browser.ofHeaders_send h.name c.bare old
  have hid : ((CookieJar.ofHeaders r.headers).requestContext svc.cookieName).sessionId = old := by
    rw [hjar, CookieJar.requestContext, Browser.presented_received]
  have hnobody : ((CookieJar.ofHeaders r.headers).requestContext svc.cookieName).principal =
      none := rfl
  obtain ⟨mid, w₁, hscope, hsame, hpending, hlost, hknown₁, hlogin₁, hcurrent⟩ :=
    h.scope_yields hids httl hclock hw (b := b) hnobody (by rw [hid]; exact hknown)
      (by rw [hid]; exact hlogin)
  obtain ⟨ctx', response, w', hoperation, hbare, hreply, hcookies, hturn, hlogin', hrest⟩ :=
    h.operation_yields hids httl hclock hsame.valid hknown₁ hlogin₁ hcurrent c.action hanswer
  obtain ⟨t, ht⟩ := h.clock w'
  have hserve := LoginService.inScope_yields hscope hoperation ht
  rw [hjar, Browser.presented_received] at hserve
  -- The cookies that the response sets are those of the session the request leaves with.
  generalize hwritten : (CookieJar.writeContext _ _ _ _ _).1 = jar at hserve
  refine ⟨_, ctx'.sessionId, w', ?_, (reply_response svc r response jar).trans hreply, ?_,
    (hturn.after hsame.known hsame.view).of_lost (fun id hmid => hid ▸ hlost id hmid), hlogin',
    hrest⟩
  · rw [LoginService.serve_eq svc (hr ▸ c.asks.send _)]
    exact hserve.bind (Yields.pure _ _)
  · have hempty : (LoginCommand.finish ctx').responseCookies = [] := by
      show ctx'.responseCookies = []
      rw [hcookies, hpending]
      rfl
    rw [update_response svc r hbare, ← hwritten, Browser.update_writeContext h.name t old hempty]
    rfl

/-- After a turn of one browser, the others hold what they held, and their sessions are as they
were. -/
theorem Agrees.turn {held : ι → Option SessionId} {m m' : LoginMachine ι α} {k' : Nat} {b : ι}
    {new : Option SessionId} {w' : World α} (h : Agrees ids most ttl k w held m)
    (hturn : (World.model ids most ttl m.clock m'.outside).Turn k' w (held b) new w')
    (hlogin : new.bind ((World.model ids most ttl m.clock m'.outside).login? w') = m'.login? b)
    (hclock : m'.clock = m.clock) (hothers : ∀ b' ≠ b, m'.logins b' = m.logins b') :
    Agrees ids most ttl k' w' (Function.update held b new) m' where
  valid := hclock ▸ hturn.valid
  known b' id hid := by
    by_cases hb : b' = b
    · subst hb
      rw [Function.update_self] at hid
      exact hturn.known id hid
    · rw [Function.update_of_ne hb] at hid
      exact hturn.known_mono id (h.known b' id hid)
  distinct b₁ b₂ id h₁ h₂ := by
    -- The id that the browser got is its old one or a new one, so no other browser holds it.
    have hnew (b' : ι) (hb : b' ≠ b) (hid : held b' = some id) : new ≠ some id := fun hid' =>
      (hturn.origin id hid').elim (fun hold => hb (h.distinct b' b id hid hold))
        fun hfresh => hfresh (h.known b' id hid)
    rw [Function.update_apply] at h₁ h₂
    split at h₁ <;> split at h₂
    · rename_i hb₁ hb₂
      exact hb₁.trans hb₂.symm
    · rename_i hb₂
      exact absurd h₁ (hnew b₂ hb₂ h₂)
    · rename_i hb₁ _
      exact absurd h₂ (hnew b₁ hb₁ h₁)
    · exact h.distinct b₁ b₂ id h₁ h₂
  login b' := by
    rw [hclock]
    by_cases hb : b' = b
    · subst hb
      rw [Function.update_self]
      exact hlogin
    · rw [Function.update_of_ne hb, LoginMachine.login?, hothers b' hb, hclock]
      refine Eq.trans ?_ (h.login b')
      cases hheld : held b' with
      | none => rfl
      | some id =>
        have hview := hturn.others id (h.known b' id hheld) fun hold =>
          hb (h.distinct b' b id hheld hold)
        rw [Option.bind_some, Option.bind_some, StoreModel.login?, hview]
        rfl

/-- The service and the machine stay in step over any run. -/
theorem Browsers.run_yields (h : svc.Hosted ids v ends) (hids : Set.InjOn ids (Set.Iio most))
    (httl : 1 ≤ ttl) (events : List (Event ι)) {held : ι → Option SessionId}
    {m : LoginMachine ι α} (hagrees : Agrees ids most ttl (2 * events.length) w held m)
    (hclock : (m.clock + waited events) / 1000 + ttl ≤ Uptime.lastSecond) :
    ∃ responses w', Yields
        (run svc (fun b => Browser.holding svc.cookieName (held b)) events) w responses w' ∧
      responses.map Response.reply = (m.run v ttl events).map Answer.reply := by
  -- Along the events. A call draws two ids at most, and that many are left for each of them.
  induction events generalizing w held m with
  | nil => exact ⟨[], w, Yields.pure _ _, rfl⟩
  | cons event events ih =>
    have hlength : 2 * (event :: events).length = 2 * events.length + 2 := by
      rw [List.length_cons]
      omega
    rw [hlength] at hagrees
    cases event with
    | wait ms =>
      rw [waited, ← Nat.add_assoc] at hclock
      obtain ⟨responses, w', hrun, hresponses⟩ :=
        ih ((hagrees.weaken (Nat.le_add_right _ 2)).wait ms) hclock
      have hwait : Yields (modifyThe (World α) fun w => { w with clock := w.clock + ms } :
          World.Run α Unit) w () { w with clock := w.clock + ms } := rfl
      exact ⟨responses, w', hwait.bind hrun, hresponses⟩
    | call b c =>
      rw [waited] at hclock
      have hnow : m.clock / 1000 + ttl ≤ Uptime.lastSecond :=
        Nat.le_trans (Nat.add_le_add_right (Nat.div_le_div_right (Nat.le_add_right ..)) ttl) hclock
      rcases hanswer : m.answer v ttl b c.action with ⟨a, m'⟩
      obtain ⟨response, new, w₁, hserve, hreply, hupdate, hturn, hlogin, hclock', hothers⟩ :=
        h.serve_yields hids httl hnow hagrees.valid (hagrees.known b) (hagrees.login b) c hanswer
      obtain ⟨responses, w', hrun, hresponses⟩ :=
        ih (hagrees.turn hturn hlogin hclock' hothers) (by rw [hclock']; exact hclock)
      have hbrowsers : Function.update (fun b => Browser.holding svc.cookieName (held b)) b
          (Browser.holding svc.cookieName new) =
            fun b' => Browser.holding svc.cookieName (Function.update held b new b') := by
        funext b'
        rw [Function.update_apply, Function.update_apply]
        split <;> rfl
      refine ⟨response :: responses, w', hserve.bind ?_, ?_⟩
      · rw [hupdate, hbrowsers]
        exact hrun.bind (Yields.pure _ _)
      · simp only [LoginMachine.run, hanswer]
        rw [List.map_cons, List.map_cons, hreply, hresponses]

/-! ### A started service -/

theorem LoginService.Hosted.of_service {around : World.Surroundings α} {settings : Settings}
    {w₀ : World α}
    (hstart : Yields (Deployment.service (around.resources ids) settings).run w₀ (.ok svc) w)
    (hmode : settings.login.mode = .perSession) (hbackend : settings.session.backend = .memory)
    (hremember : settings.rememberMe.enabled = false) (hclear : settings.login.clearCookies = [])
    (hname : IsCookieName settings.session.cookieName) :
    w.store = { ttl := settings.session.ttlSeconds } ∧
      ∃ v, svc.Hosted ids v settings.login.invalidateSession := by
  obtain ⟨hstart, hcookie, hdate⟩ := Deployment.of_service hstart
  obtain ⟨v, hw, hcommand⟩ := Deployment.of_start hstart hbackend
  rw [Deployment.command_eq hmode] at hcommand
  have hcommand := (Except.ok.inj hcommand).symm
  refine ⟨by rw [hw], v, hcookie ▸ hname, ?_, ?_, ?_, ?_, fun w => ⟨around.date w, ?_⟩⟩
  · rw [hcommand]
    simp [Deployment.logoutHandlers, hmode, hremember, hclear, Mode.isPerClient]
  · rw [hcommand]
    rfl
  · rw [hcommand]
    simp [Deployment.loginConfig, hmode, Mode.isPerClient]
  · rw [hcommand]
    simp [Deployment.loginConfig, hremember]
  · rw [hdate]
    rfl

/-- Settings that keep sessions in memory for a minute and ask a database for users. -/
def smallSettings : Settings where
  login := { mode := .perSession, invalidateSession := true, clearCookies := [] }
  session := { cookieName := "SESSION", ttlSeconds := 60, backend := .memory }
  rememberMe := { enabled := false, cookieName := "", secret := "", ttlSeconds := 0 }
  redisHostName := ""
  postgresUrl := ""
  verifier := { backend := .postgres, users := [] }
  server := { address := "", allowedOrigins := [] }

/-- Surroundings whose database lets everybody in. -/
def openSurroundings : World.Surroundings Unit where
  date _ := ⟨0⟩
  salt := pure []
  redis _ _ := pure (.error "")
  database _ := pure (.ok ⟨fun c => pure (.ok ⟨c.username.text, .empty⟩)⟩)

/-- A request to log in. -/
def loginRequest : Request where
  method := .post
  target := "/login"
  headers := [("content-type", "application/json")]
  body := "\x7b\"username\":\"alice\",\"password\":\"pw\"\x7d"

/-- Somebody logs in and asks a second later who is logged in. -/
def smallEvents : List (Event Unit) :=
  [.call () ⟨loginRequest, .login "alice" "pw",
      @Request.Asks.login loginRequest ⟨"alice", "pw"⟩ rfl (by decide) (by decide +kernel),
      by decide +kernel⟩,
    .wait 1000,
    .call () ⟨{ method := .get, target := "/principal" }, .principal, .principal rfl (by decide),
      rfl⟩]

end Http

end WebLogin
