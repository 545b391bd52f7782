/-
Steps of a request that break off.

A command over a store in memory breaks off only where it writes a session, and only where the
deadline of that session lies too far ahead for the clock. It writes one to log somebody in, in the
scope of a request or by a password, and to log somebody out whose session is not ended.

* `LoginCommand.scope_steady`, `login_steady`, `logout_steady` — nothing else breaks off;
* `LoginCommand.login_breaksOff_iff`, `logout_breaksOff_iff` — when logging in and out break off;
* `LoginCommand.scope_breaksOff_iff` — when a scope does.
-/
import WebLogin.Proofs.Login.Visits
import WebLogin.Proofs.Logout.Repeated
import WebLogin.Proofs.Store.Overflow

namespace WebLogin

open World (Kept Steady)

variable {α β : Type} {ids : Nat → SessionId} {w w' : World α} {ctx ctx' : RequestContext}
  {persists : Prop}

namespace World

/-- What minds only what lies outside is steady. -/
theorem Steady.elsewhere (x : StateM α β) : Steady persists (World.elsewhere x) :=
  .of_ends fun w => ⟨_, _, elsewhere_yields x w, rfl, rfl, id⟩

/-- The session of an id, if it has not expired. -/
def session? (w : World α) (id : SessionId) : Option Session :=
  (w.store.live w.clock id).map MemoryEntry.session

/-- Who is logged in with the session that a request names. -/
def holder? (w : World α) (named : Option SessionId) : Option Principal :=
  named.bind fun id => (w.session? id).bind Session.principal

/-- The world after the session that a request names was looked up: an entry that has expired is
dropped. -/
def lookedUp (w : World α) : Option SessionId → World α
  | none => w
  | some id => { w with store := (w.store.get w.clock id).2 }

theorem kept_lookedUp (w : World α) (named : Option SessionId) : w.Kept (w.lookedUp named) := by
  cases named with
  | none => exact .refl w
  | some id => exact ⟨rfl, MemoryStore.ttl_get .., fun hw => hw.get _ _⟩

theorem session?_lookedUp (w : World α) (named : Option SessionId) :
    (w.lookedUp named).session? = w.session? := by
  cases named with
  | none => rfl
  | some id =>
    funext id'
    show ((w.store.get w.clock id).2.live w.clock id').map _ = _
    rw [MemoryStore.live_get]
    rfl

theorem holder?_lookedUp (w : World α) (named named' : Option SessionId) :
    (w.lookedUp named).holder? named' = w.holder? named' := by
  rw [holder?, session?_lookedUp, holder?]

/-- In a session that is not there, nobody is logged in. -/
theorem holder?_filter (w : World α) (named : Option SessionId) :
    w.holder? (named.filter fun id => (w.session? id).isSome) = w.holder? named := by
  cases named with
  | none => rfl
  | some id =>
    rw [Option.filter_some]
    cases hid : w.session? id <;> simp [holder?, hid]

theorem outside_lookedUp (w : World α) (named : Option SessionId) :
    (w.lookedUp named).outside = w.outside := by
  cases named <;> rfl

variable (ids) in
theorem get_yields_session? (w : World α) (id : SessionId) :
    Yields ((sessionStore ids).get id) w (.ok (w.session? id)) (w.lookedUp (some id)) := by
  rw [session?, ← MemoryStore.get_fst]
  exact get_ends w id

/-- A session that was looked up can be saved. -/
theorem isSome_live {id : SessionId} {x : Session} (hw : w.store.Sound)
    (h : w.session? id = some x) : (w.store.live w.clock x.id).isSome := by
  obtain ⟨e, he, rfl⟩ := Option.map_eq_some_iff.1 h
  rw [hw.id_eq id e (MemoryStore.live_eq_some_iff.1 he).1, he]
  rfl

end World

/-! ### Binders -/

namespace SessionBinder

variable {b : SessionBinder (World.Run α)}

theorem restore_steady (hb : b.Over ids) (ctx : RequestContext) :
    Steady persists (b.restore ctx) := by
  cases hb with
  | perClient => exact .pure _
  | perSession =>
    simp only [restore]
    cases ctx.sessionId with
    | none => exact .pure _
    | some id =>
      refine (Steady.get id).bind fun found => ?_
      rcases found with e | _ | ⟨id, _ | p⟩ <;> exact .pure _

theorem sessionOf_steady (hpersists : persists) (ctx : RequestContext) :
    Steady persists (sessionOf (World.sessionStore ids : SessionStore (World.Run α)) ctx) := by
  have hexisting : Steady persists
      (existing (World.sessionStore ids : SessionStore (World.Run α)) ctx) := by
    rw [existing]
    cases ctx.sessionId with
    | none => exact .pure _
    | some id => exact .get id
  rw [sessionOf_eq]
  refine hexisting.bind fun found => ?_
  rcases found with e | _ | x
  · exact .pure _
  · refine (Steady.create hpersists).bind fun made => ?_
    cases made <;> exact .pure _
  · exact .pure _

theorem bind_steady (hb : b.Over ids) (hpersists : b ≠ .perClient → persists)
    (ctx : RequestContext) (p : Principal) : Steady persists (b.bind ctx p) := by
  cases hb with
  | perClient => exact .pure _
  | perSession =>
    have hwrites : persists := hpersists (by simp)
    refine (sessionOf_steady hwrites ctx).bind fun step => ?_
    obtain ⟨ctx₁, e | x⟩ := step
    · exact .pure _
    · refine (Steady.save hwrites _).bind fun saved => ?_
      cases saved <;> exact .pure _

theorem unbind_steady (hb : b.Over ids) (hpersists : b ≠ .perClient → persists)
    (ctx : RequestContext) : Steady persists (b.unbind ctx) := by
  cases hb with
  | perClient => exact .pure _
  | perSession =>
    simp only [unbind]
    cases ctx.unbindPrincipal.sessionId with
    | none => exact .pure _
    | some id =>
      refine (Steady.get id).bind fun found => ?_
      rcases found with e | _ | x
      · exact .pure _
      · exact .pure _
      · dsimp only
        split
        · refine (Steady.save (hpersists (by simp)) _).bind fun saved => ?_
          cases saved <;> exact .pure _
        · exact .pure _

/-- A request takes over the principal of its session, and loses an id that the store does not
know. -/
theorem restored_eq_record (sessions : SessionId → Option Session) (ctx : RequestContext) :
    restored sessions ctx = { ctx with
      sessionId := ctx.sessionId.filter fun id => (sessions id).isSome
      principal := (ctx.sessionId.bind fun id => (sessions id).bind Session.principal).or
        ctx.principal } := by
  obtain ⟨old, cookies, pending, principal⟩ := ctx
  cases old with
  | none => rfl
  | some id =>
    simp only [restored, Option.bind_some, Option.filter_some]
    cases sessions id with
    | none => rfl
    | some x =>
      obtain ⟨xid, p⟩ := x
      cases p <;> rfl

variable (ids) in
theorem restore_yields_lookedUp (ctx : RequestContext) (w : World α) :
    Yields ((perSession (World.sessionStore ids)).restore ctx) w
      (restored w.session? ctx, .ok ()) (w.lookedUp ctx.sessionId) := by
  cases hid : ctx.sessionId with
  | none =>
    simp only [restore, restored, hid]
    exact .pure _ _
  | some id =>
    simp only [restore, restored, hid]
    refine (World.get_yields_session? ids w id).bind ?_
    cases w.session? id with
    | none => exact .pure _ _
    | some x =>
      dsimp only
      cases x.principal with
      | none => exact .pure _ _
      | some p => exact .pure _ _

variable (ids) in
/-- Binding somebody always writes a session. -/
theorem bind_breaksOff (hw : w.store.Sound) (hlate : w.Overflows) (ctx : RequestContext)
    (p : Principal) : BreaksOff ((perSession (World.sessionStore ids)).bind ctx p) w := by
  -- Without a session that is there, one is made, and that is too late already.
  have hcreate {w₁ : World α} (hkept : w.Kept w₁) :
      BreaksOff (World.sessionStore ids).create w₁ :=
    World.create_breaksOff_iff.2 (hkept.overflows_iff.2 hlate)
  simp only [bind, sessionOf_eq, existing]
  refine BreaksOff.bind_iff.2 ?_
  cases hid : ctx.sessionId with
  | none =>
    refine .inl ((BreaksOff.bind_iff_of_yields (.pure _ _)).2 (BreaksOff.bind_iff.2 (.inl ?_)))
    exact hcreate (.refl w)
  | some id =>
    have hkept : w.Kept (w.lookedUp (some id)) := w.kept_lookedUp (some id)
    have hget := World.get_yields_session? ids w id
    cases hfound : w.session? id with
    | none =>
      rw [hfound] at hget
      refine .inl ((BreaksOff.bind_iff_of_yields hget).2 (BreaksOff.bind_iff.2 (.inl ?_)))
      exact hcreate hkept
    | some x =>
      rw [hfound] at hget
      refine .inr ⟨(ctx, .ok x), w.lookedUp (some id), hget.bind (.pure _ _), ?_⟩
      have hthere : (w.lookedUp (some id)).session? id = some x := by
        rw [World.session?_lookedUp, hfound]
      have hlive := World.isSome_live (hkept.sound hw) hthere
      have hsave : BreaksOff ((World.sessionStore ids).save { x with principal := some p })
          (w.lookedUp (some id)) :=
        World.save_breaksOff_iff.2 ⟨hkept.overflows_iff.2 hlate, hlive⟩
      exact BreaksOff.bind_iff.2 (.inl hsave)

/-- Unbinding writes a session if somebody is in it. -/
theorem unbind_breaksOff_iff (hw : w.store.Sound) (ctx : RequestContext) :
    BreaksOff ((perSession (World.sessionStore ids)).unbind ctx) w ↔
      w.Overflows ∧ (w.holder? ctx.sessionId).isSome := by
  have hnever {β : Type} (b : β) (w₁ : World α) : BreaksOff (pure b : World.Run α β) w₁ ↔ False :=
    iff_false_intro (BreaksOff.not_pure b w₁)
  have hstays : ctx.unbindPrincipal.sessionId = ctx.sessionId := rfl
  simp only [unbind, hstays]
  cases hid : ctx.sessionId with
  | none => simp [World.holder?, hnever]
  | some id =>
    have hkept : w.Kept (w.lookedUp (some id)) := w.kept_lookedUp (some id)
    have hget := World.get_yields_session? ids w id
    rw [World.holder?, Option.bind_some]
    refine (BreaksOff.bind_iff_of_yields hget).trans ?_
    cases hfound : w.session? id with
    | none => simp [hnever]
    | some x =>
      have hthere : (w.lookedUp (some id)).session? id = some x := by
        rw [World.session?_lookedUp, hfound]
      have hlive := World.isSome_live (hkept.sound hw) hthere
      cases hp : x.principal with
      | none => simp [hp, hnever]
      | some p =>
        simp only [hp, Option.isSome_some, if_true, Option.bind_some, and_true]
        rw [BreaksOff.bind_iff_left, World.save_breaksOff_iff, hkept.overflows_iff]
        · exact and_iff_left hlive
        · rintro (e | u) w₁ <;> exact BreaksOff.not_pure _ _

end SessionBinder

/-! ### Commands -/

theorem SessionStrategy.changeId_steady (hpersists : persists) (ctx : RequestContext)
    (p : Principal) : Steady persists ((changeId (World.sessionStore ids :
      SessionStore (World.Run α))).onAuthentication ctx p) := by
  have hmove (old fresh : Session) :
      Steady persists (moveSession (World.sessionStore ids : SessionStore (World.Run α)) old
        fresh) := by
    rw [moveSession]
    cases old.principal with
    | none => exact .invalidate _
    | some p =>
      refine (Steady.save hpersists _).bind fun saved => ?_
      cases saved with
      | error e => exact .pure _
      | ok u => exact .invalidate _
  have hrotate :
      Steady persists (rotate (World.sessionStore ids : SessionStore (World.Run α)) ctx) := by
    rw [rotate]
    cases ctx.sessionId with
    | none => exact .pure _
    | some id =>
      refine (Steady.get id).bind fun found => ?_
      rcases found with e | _ | old
      · exact .pure _
      · exact .pure _
      · refine (Steady.create hpersists).bind fun made => ?_
        cases made with
        | error e => exact .pure _
        | ok fresh =>
          refine (hmove old fresh).bind fun moved => ?_
          cases moved with
          | ok u => exact .pure _
          | error e => exact (Steady.invalidate _).bind fun _ => .pure _
  exact hrotate.bind fun _ => .pure _

/-- Somebody who remembers logins and breaks off for no reason of his own. -/
structure RememberMe.IsSteady (persists : Prop) (rm : RememberMe (World.Run α)) : Prop where
  autoLogin : ∀ ctx, Steady persists (rm.autoLogin ctx)
  loginSuccess : ∀ ctx p, Steady persists (rm.loginSuccess ctx p)
  loginFail : ∀ ctx, Steady persists (rm.loginFail ctx)

theorem RememberMe.isSteady_null : (null : RememberMe (World.Run α)).IsSteady persists :=
  ⟨fun _ => .pure _, fun _ _ => .pure _, fun _ => .pure _⟩

theorem RememberMeConfig.isSteady_service (rc : RememberMeConfig)
    {clock : World.Run α Timestamp} (hclock : Steady persists clock) :
    (rc.service clock).IsSteady persists :=
  ⟨fun _ => hclock.bind fun _ => .pure _, fun _ _ => hclock.bind fun _ => .pure _,
    fun _ => .pure _⟩

theorem Authentication.fail_steady {a : Authentication (World.Run α)}
    (h : a.rememberMe.IsSteady persists) (ctx : RequestContext) (f : LoginFailure) :
    Steady persists (a.fail ctx f) :=
  (h.loginFail ctx).bind fun _ => .pure _

/-- An attempt to log in breaks off after the name and the password were accepted, if refusing them
never does. -/
theorem Authentication.run_breaksOff_iff {a : Authentication (World.Run α)}
    {v : Verifier (StateM α)} {username password : String}
    (hv : a.verifier = World.liftVerifier v) (hfail : ∀ ctx f w, ¬BreaksOff (a.fail ctx f) w) :
    BreaksOff (a.run ctx username password) w ↔
      ∃ p, ((Http.attempt v username password).run w.outside).1 = .ok p ∧
        BreaksOff (a.complete ctx p)
          { w with outside := ((Http.attempt v username password).run w.outside).2 } := by
  rw [run, Http.attempt]
  cases Credential.parse username password with
  | error e =>
    refine iff_of_false (hfail ctx _ w) ?_
    rintro ⟨p, hp, -⟩
    cases hp
  | ok credential =>
    have hverify : Yields (a.verifier.verify credential) w
        ((v.verify credential).run w.outside).1
        { w with outside := ((v.verify credential).run w.outside).2 } := by
      rw [hv]
      exact World.elsewhere_yields (v.verify credential) w
    have hverdict : (do return Http.judge (← v.verify credential) :
        StateM α (Except LoginFailure Principal)).run w.outside =
          (Http.judge ((v.verify credential).run w.outside).1,
            ((v.verify credential).run w.outside).2) := rfl
    refine (BreaksOff.bind_iff_of_yields hverify).trans ?_
    rw [hverdict]
    cases ((v.verify credential).run w.outside).1 with
    | error e =>
      refine iff_of_false (hfail ctx _ _) ?_
      rintro ⟨p, hp, -⟩
      cases hp
    | ok identity =>
      constructor
      · exact fun h => ⟨_, rfl, h⟩
      · rintro ⟨p, hp, h⟩
        cases hp
        exact h

theorem LogoutSequence.runHandlers_steady {p : Option Principal}
    {handlers : List (LogoutHandler (World.Run α))}
    (h : ∀ handler ∈ handlers, ∀ ctx p, Steady persists (handler.cleanup ctx p))
    (ctx : RequestContext) : Steady persists (runHandlers p handlers ctx) := by
  induction handlers generalizing ctx with
  | nil => exact .pure _
  | cons handler rest ih =>
    refine (h handler List.mem_cons_self ctx p).bind fun step => ?_
    refine (ih (fun handler hmem => h handler (List.mem_cons_of_mem _ hmem)) step.1).bind ?_
    exact fun _ => .pure _

/-- The clock that tokens are dated by. -/
def World.clockOf (date : World α → Timestamp) : World.Run α Timestamp := do
  return date (← getThe (World α))

theorem World.clockOf_yields (date : World α → Timestamp) (w : World α) :
    Yields (clockOf date) w (date w) w := rfl

theorem World.clockOf_steady (date : World α → Timestamp) : Steady persists (clockOf date) :=
  .of_ends fun w => ⟨_, _, clockOf_yields date w, .refl w⟩

/-- A command over the store of a world, as settings set it up. -/
def Deployment.commandOver (settings : Settings) (date : World α → Timestamp)
    (ids : Nat → SessionId) (v : Verifier (StateM α)) : LoginCommand (World.Run α) where
  config := loginConfig settings (World.clockOf date) (World.sessionStore ids)
    (World.liftVerifier v)
  started := some ⟨logoutHandlers settings (World.sessionStore ids),
    binderOf settings (World.sessionStore ids)⟩

/-- Who is recalled by the token that a request brings, under the settings. -/
def Deployment.recall (settings : Settings) (now : Timestamp) (ctx : RequestContext) :
    RequestContext × Option Principal :=
  if settings.rememberMe.enabled then (rememberMeConfig settings).autoLogin now ctx else (ctx, none)

/-- Nobody is logged in with a request or with its session, but it brings the token of somebody. -/
structure Recalled (settings : Settings) (date : World α → Timestamp) (w : World α)
    (ctx : RequestContext) : Prop where
  nobody : ctx.principal = none
  vacant : w.holder? ctx.sessionId = none
  known : (Deployment.recall settings (date (w.lookedUp ctx.sessionId)) ctx).2.isSome

namespace LoginCommand

open Deployment (commandOver binderOf rememberMeConfig perSession_of_binderOf)

variable {settings : Settings} {date : World α → Timestamp} {v : Verifier (StateM α)}

/-! ### What is steady -/

theorem rememberMe_isSteady :
    (commandOver settings date ids v).config.rememberMe.IsSteady persists := by
  show (if settings.rememberMe.enabled then _ else _ : RememberMe _).IsSteady persists
  split
  · exact RememberMeConfig.isSteady_service _ (World.clockOf_steady date)
  · exact RememberMe.isSteady_null

theorem strategy_steady (ctx : RequestContext) (p : Principal) :
    Steady (settings.login.mode = .perSession)
      ((commandOver settings date ids v).config.strategy.onAuthentication ctx p) := by
  cases hmode : settings.login.mode with
  | perSession =>
    have hstrategy : (commandOver settings date ids v).config.strategy =
        .changeId (World.sessionStore ids) := by
      simp only [commandOver, Deployment.loginConfig, hmode]
      rfl
    rw [hstrategy]
    exact SessionStrategy.changeId_steady rfl ctx p
  | perClient =>
    have hstrategy : (commandOver settings date ids v).config.strategy = .null := by
      simp only [commandOver, Deployment.loginConfig, hmode]
      rfl
    rw [hstrategy]
    exact .pure _

theorem scope_steady (ctx : RequestContext) :
    Steady (settings.login.mode = .perSession) ((commandOver settings date ids v).scope ctx) := by
  have hbinder : (binderOf settings (World.sessionStore ids) : SessionBinder (World.Run α)).Over
      ids := Deployment.over_binderOf settings
  refine (SessionBinder.restore_steady hbinder ctx).bind fun step => ?_
  obtain ⟨ctx₁, e | u⟩ := step
  · exact .pure _
  · dsimp only
    split
    · exact .pure _
    · refine (rememberMe_isSteady.autoLogin ctx₁).bind fun answer => ?_
      obtain ⟨ctx₂, _ | p⟩ := answer
      · exact .pure _
      · have hbind := SessionBinder.bind_steady hbinder perSession_of_binderOf ctx₂ p
        exact hbind.bind fun _ => .pure _

theorem login_steady (ctx : RequestContext) (username password : String) :
    Steady (settings.login.mode = .perSession)
      ((commandOver settings date ids v).login ctx username password) := by
  have hbinder : (binderOf settings (World.sessionStore ids) : SessionBinder (World.Run α)).Over
      ids := Deployment.over_binderOf settings
  have hrm : (commandOver settings date ids v).config.rememberMe.IsSteady
      (settings.login.mode = .perSession) := rememberMe_isSteady
  have hstrategy (ctx : RequestContext) (p : Principal) : Steady (settings.login.mode = .perSession)
      ((commandOver settings date ids v).config.strategy.onAuthentication ctx p) :=
    strategy_steady ctx p
  refine Steady.bind ?_ fun _ => .pure _
  rw [Authentication.run]
  cases Credential.parse username password with
  | error e => exact Authentication.fail_steady hrm ctx _
  | ok credential =>
    refine (Steady.elsewhere (v.verify credential)).bind fun verdict => ?_
    cases verdict with
    | error e => exact Authentication.fail_steady hrm ctx _
    | ok identity =>
      refine Steady.bind ?_ fun step => ?_
      · have hbind := SessionBinder.bind_steady hbinder perSession_of_binderOf ctx
          (.ofIdentity identity)
        refine hbind.bind fun bound => ?_
        obtain ⟨ctx₁, e | u⟩ := bound
        · exact .pure _
        · exact (hstrategy ctx₁ _).bind fun _ => .pure _
      · obtain ⟨ctx₁, f | u⟩ := step
        · have hunbind := SessionBinder.unbind_steady hbinder perSession_of_binderOf ctx₁
          exact hunbind.bind fun _ => Authentication.fail_steady hrm _ _
        · exact (hrm.loginSuccess ctx₁ _).bind fun _ => .pure _

theorem logout_steady (ctx : RequestContext) (p : Option Principal) :
    Steady (settings.login.mode = .perSession)
      ((commandOver settings date ids v).logout ctx p) := by
  have hbinder : (binderOf settings (World.sessionStore ids) : SessionBinder (World.Run α)).Over
      ids := Deployment.over_binderOf settings
  have hhandlers : ∀ handler ∈ Deployment.logoutHandlers settings
      (World.sessionStore ids : SessionStore (World.Run α)),
        ∀ ctx p, Steady (settings.login.mode = .perSession) (handler.cleanup ctx p) := by
    refine Deployment.forall_logoutHandlers (fun ends ctx p => ?_) (fun _ _ _ => .pure _)
      fun _ _ _ => .pure _
    rw [LogoutHandler.securityContext]
    dsimp only
    cases ends with
    | false => exact .pure _
    | true =>
      cases ctx.sessionId with
      | none => exact .pure _
      | some id => exact (Steady.invalidate id).bind fun _ => .pure _
  refine (LogoutSequence.runHandlers_steady hhandlers ctx).bind fun step => ?_
  have hunbind := SessionBinder.unbind_steady hbinder perSession_of_binderOf step.1
  exact hunbind.bind fun _ => .pure _

/-! ### Where it is too late -/

theorem sessionId_recall (settings : Settings) (now : Timestamp) (ctx : RequestContext) :
    (Deployment.recall settings now ctx).1.sessionId = ctx.sessionId := by
  rw [Deployment.recall]
  split
  · exact (RememberMeConfig.sameLogin_autoLogin _ now ctx).sessionId
  · rfl

/-- Who is recalled is a matter of cookies. -/
theorem recall_snd (settings : Settings) (now : Timestamp) (ctx : RequestContext)
    (named : Option SessionId) (p : Option Principal) :
    (Deployment.recall settings now { ctx with sessionId := named, principal := p }).2 =
      (Deployment.recall settings now ctx).2 := by
  have hcookie (name : String) :
      RequestContext.requestCookie? { ctx with sessionId := named, principal := p } name =
        ctx.requestCookie? name := rfl
  rw [Deployment.recall, Deployment.recall]
  split
  · rw [RememberMeConfig.autoLogin, RememberMeConfig.autoLogin, hcookie]
    cases ctx.requestCookie? (rememberMeConfig settings).cookieName with
    | none => rfl
    | some token =>
      dsimp only
      cases Token.verify (rememberMeConfig settings).secret now token <;> rfl
  · rfl

theorem autoLogin_yields (ctx : RequestContext) (w : World α) :
    Yields ((commandOver settings date ids v).config.rememberMe.autoLogin ctx) w
      (Deployment.recall settings (date w) ctx) w := by
  show Yields ((if settings.rememberMe.enabled then _ else _ :
    RememberMe (World.Run α)).autoLogin ctx) w _ w
  rw [Deployment.recall]
  split <;> rfl

/-- What comes after the first handler of a logout only queues cookies. -/
theorem otherHandlers_yield (settings : Settings) (q : Option Principal) (ctx : RequestContext)
    (w : World α) :
    ∃ ctx', Yields (LogoutSequence.runHandlers q
        ((if settings.rememberMe.enabled then [(rememberMeConfig settings).handler] else []) ++
          (if settings.login.clearCookies.isEmpty then []
            else [.cookieClearing settings.login.clearCookies])) ctx :
              World.Run α (RequestContext × List StepFailure)) w (ctx', []) w ∧
      ctx'.sessionId = ctx.sessionId := by
  split <;> split
  · exact ⟨(rememberMeConfig settings).clearCookie ctx, rfl, rfl⟩
  · exact ⟨((rememberMeConfig settings).clearCookie ctx).forgetting settings.login.clearCookies,
      rfl, RequestContext.sessionId_forgetting _ _⟩
  · exact ⟨ctx, rfl, rfl⟩
  · exact ⟨ctx.forgetting settings.login.clearCookies, rfl,
      RequestContext.sessionId_forgetting _ _⟩

section

variable (hmode : settings.login.mode = .perSession)
include hmode

theorem binderOf_eq : (binderOf settings (World.sessionStore ids) : SessionBinder (World.Run α)) =
    .perSession (World.sessionStore ids) := by
  rw [binderOf, hmode]

/-- In the scope of a request, somebody who is recalled is bound. -/
theorem scope_breaksOff (hw : w.store.Sound) (hlate : w.Overflows)
    (h : Recalled settings date w ctx) :
    BreaksOff ((commandOver settings date ids v).scope ctx) w := by
  have hkept := w.kept_lookedUp ctx.sessionId
  have hrestore := SessionBinder.restore_yields_lookedUp ids ctx w
  have hnobody : (SessionBinder.restored w.session? ctx).principal = none := by
    rw [SessionBinder.restored_eq_record]
    dsimp only
    rw [h.nobody, Option.or_none]
    exact h.vacant
  have hauto : Yields ((commandOver settings date ids v).config.rememberMe.autoLogin _) _ _ _ :=
    autoLogin_yields (SessionBinder.restored w.session? ctx) (w.lookedUp ctx.sessionId)
  have hknown : (Deployment.recall settings (date (w.lookedUp ctx.sessionId))
      (SessionBinder.restored w.session? ctx)).2.isSome := by
    rw [SessionBinder.restored_eq_record, recall_snd]
    exact h.known
  obtain ⟨p, hp⟩ := Option.isSome_iff_exists.1 hknown
  have hbind := SessionBinder.bind_breaksOff ids (hkept.sound hw)
    (hkept.overflows_iff.2 hlate) (Deployment.recall settings (date (w.lookedUp ctx.sessionId))
      (SessionBinder.restored w.session? ctx)).1 p
  simp only [scope, commandOver, binderOf_eq hmode]
  refine (BreaksOff.bind_iff_of_yields hrestore).2 ?_
  dsimp only
  simp only [RequestContext.isAuthenticated, hnobody, Option.isSome_none, Bool.false_eq_true,
    if_false]
  refine (BreaksOff.bind_iff_of_yields hauto).2 ?_
  rw [← Prod.eta (Deployment.recall _ _ _), hp]
  exact BreaksOff.bind_iff.2 (.inl hbind)

/-- Otherwise a request gets its scope, with what is left of its session. -/
theorem scope_yields_lookedUp (h : ¬Recalled settings date w ctx) :
    ∃ ctx', Yields ((commandOver settings date ids v).scope ctx) w (ctx', .ok ())
        (w.lookedUp ctx.sessionId) ∧
      ctx'.sessionId = ctx.sessionId.filter fun id => (w.session? id).isSome := by
  have hrestore := SessionBinder.restore_yields_lookedUp ids ctx w
  have hsession : (SessionBinder.restored w.session? ctx).sessionId =
      ctx.sessionId.filter fun id => (w.session? id).isSome := by
    rw [SessionBinder.restored_eq_record]
  simp only [scope, commandOver, binderOf_eq hmode]
  cases hp : (SessionBinder.restored w.session? ctx).principal with
  | some p =>
    refine ⟨SessionBinder.restored w.session? ctx, hrestore.bind ?_, hsession⟩
    simp only [RequestContext.isAuthenticated, hp, Option.isSome_some, if_true]
    exact .pure _ _
  | none =>
    have hunknown : (Deployment.recall settings (date (w.lookedUp ctx.sessionId))
        (SessionBinder.restored w.session? ctx)).2 = none := by
      rw [SessionBinder.restored_eq_record] at hp ⊢
      obtain ⟨hvacant, hnobody⟩ := Option.or_eq_none_iff.1 hp
      rw [recall_snd, ← Option.not_isSome_iff_eq_none]
      exact fun hknown => h ⟨hnobody, hvacant, hknown⟩
    have hauto : Yields ((commandOver settings date ids v).config.rememberMe.autoLogin _) _ _ _ :=
      autoLogin_yields (SessionBinder.restored w.session? ctx) (w.lookedUp ctx.sessionId)
    refine ⟨(Deployment.recall settings (date (w.lookedUp ctx.sessionId))
      (SessionBinder.restored w.session? ctx)).1, hrestore.bind ?_,
      (sessionId_recall settings _ _).trans hsession⟩
    simp only [RequestContext.isAuthenticated, hp, Option.isSome_none, Bool.false_eq_true,
      if_false]
    refine hauto.bind ?_
    rw [← Prod.eta (Deployment.recall _ _ _), hunknown]
    exact .pure _ _

/-- A login writes a session once the name and the password are accepted. -/
theorem login_breaksOff_iff (hw : w.store.Sound) (hlate : w.Overflows) (ctx : RequestContext)
    (username password : String) :
    BreaksOff ((commandOver settings date ids v).login ctx username password) w ↔
      ∃ p, ((Http.attempt v username password).run w.outside).1 = .ok p := by
  have hfail (ctx : RequestContext) (f : LoginFailure) (w₁ : World α) :
      ¬BreaksOff (((commandOver settings date ids v).authentication
        ⟨Deployment.logoutHandlers settings (World.sessionStore ids),
          binderOf settings (World.sessionStore ids)⟩).fail ctx f) w₁ := by
    have hrm : (commandOver settings date ids v).config.rememberMe.IsSteady False :=
      rememberMe_isSteady
    exact (Authentication.fail_steady hrm ctx f).not_breaksOff w₁
  refine (BreaksOff.bind_iff_left fun _ _ => BreaksOff.not_pure _ _).trans ?_
  refine (Authentication.run_breaksOff_iff rfl hfail).trans (exists_congr fun p => ?_)
  refine and_iff_left ?_
  -- The first thing that is done for somebody who is accepted is to bind him.
  have hkept : w.Kept
      { w with outside := ((Http.attempt v username password).run w.outside).2 } := ⟨rfl, rfl, id⟩
  have hbind : BreaksOff ((binderOf settings (World.sessionStore ids)).bind ctx p)
      { w with outside := ((Http.attempt v username password).run w.outside).2 } := by
    rw [binderOf_eq hmode]
    exact SessionBinder.bind_breaksOff ids (hkept.sound hw) (hkept.overflows_iff.2 hlate) ctx p
  exact BreaksOff.bind_iff.2 (.inl (BreaksOff.bind_iff.2 (.inl hbind)))

variable (ids) in
/-- The handlers of a logout come to an end. Afterwards the request has lost its session if sessions
are ended, and otherwise nothing has happened to it. -/
theorem handlers_yield (q : Option Principal) (ctx : RequestContext) (w : World α) :
    ∃ ctx' failures w', Yields (LogoutSequence.runHandlers q
        (Deployment.logoutHandlers settings (World.sessionStore ids)) ctx) w (ctx', failures) w' ∧
      w.Kept w' ∧ (settings.login.invalidateSession = true → ctx'.sessionId = none) ∧
      (settings.login.invalidateSession = false → ctx'.sessionId = ctx.sessionId ∧ w' = w) := by
  have hends : (settings.login.invalidateSession && !settings.login.mode.isPerClient) =
      settings.login.invalidateSession := by
    rw [hmode]
    exact Bool.and_true _
  rw [Deployment.logoutHandlers, hends, List.append_assoc, List.singleton_append]
  cases hflag : settings.login.invalidateSession with
  | false =>
    obtain ⟨ctx', hothers, hsession⟩ := otherHandlers_yield settings q ctx w
    refine ⟨ctx', _, w, Yields.bind (.pure _ _) (hothers.bind (.pure _ _)), .refl w, ?_, ?_⟩
    · exact fun h => absurd h (by decide)
    · exact fun _ => ⟨hsession, rfl⟩
  | true =>
    cases hid : ctx.sessionId with
    | none =>
      obtain ⟨ctx', hothers, hsession⟩ := otherHandlers_yield settings q ctx w
      have hcleanup : Yields ((LogoutHandler.securityContext (some (World.sessionStore ids)) true :
          LogoutHandler (World.Run α)).cleanup ctx q) w (ctx, .ok ()) w := by
        simp only [LogoutHandler.securityContext, hid]
        exact .pure _ _
      refine ⟨ctx', _, w, hcleanup.bind (hothers.bind (.pure _ _)), .refl w, ?_, ?_⟩
      · exact fun _ => hsession.trans hid
      · exact fun h => absurd h (by decide)
    | some id =>
      obtain ⟨ctx', hothers, hsession⟩ := otherHandlers_yield settings q (ctx.withSession none)
        { w with store := w.store.invalidate id }
      have hcleanup : Yields ((LogoutHandler.securityContext (some (World.sessionStore ids)) true :
          LogoutHandler (World.Run α)).cleanup ctx q) w (ctx.withSession none, .ok ())
            { w with store := w.store.invalidate id } := by
        simp only [LogoutHandler.securityContext, hid]
        exact (World.invalidate_ends w id).bind (.pure _ _)
      refine ⟨ctx', _, _, hcleanup.bind (hothers.bind (.pure _ _)),
        ⟨rfl, rfl, fun hw => hw.erase id⟩, ?_, ?_⟩
      · exact fun _ => hsession
      · exact fun h => absurd h (by decide)

/-- A logout writes a session if somebody is in it and it is not ended. -/
theorem logout_breaksOff_iff (hw : w.store.Sound) (ctx : RequestContext) :
    BreaksOff ((commandOver settings date ids v).logout ctx none) w ↔
      w.Overflows ∧ settings.login.invalidateSession = false ∧
        (w.holder? ctx.sessionId).isSome := by
  obtain ⟨ctx', failures, w', hhandlers, hkept, hended, hleft⟩ :=
    handlers_yield ids hmode (none <|> ctx.principal) ctx w
  have hrun : BreaksOff ((commandOver settings date ids v).logout ctx none) w ↔
      BreaksOff ((SessionBinder.perSession (World.sessionStore ids)).unbind ctx') w' := by
    simp only [logout, commandOver, binderOf_eq hmode]
    refine (BreaksOff.bind_iff_of_yields hhandlers).trans ?_
    exact BreaksOff.bind_iff_left fun _ _ => BreaksOff.not_pure _ _
  rw [hrun, SessionBinder.unbind_breaksOff_iff (hkept.sound hw), hkept.overflows_iff]
  cases hflag : settings.login.invalidateSession with
  | true => simp [hended hflag, World.holder?]
  | false =>
    obtain ⟨hsession, rfl⟩ := hleft hflag
    simp [hsession]

end

/-- A scope breaks off exactly if somebody is recalled in it and it is too late. -/
theorem scope_breaksOff_iff (hw : w.store.Sound) :
    BreaksOff ((commandOver settings date ids v).scope ctx) w ↔
      w.Overflows ∧ settings.login.mode = .perSession ∧ Recalled settings date w ctx := by
  constructor
  · intro hbreaks
    obtain ⟨hmode, hlate⟩ := (scope_steady ctx).breaksOff hbreaks
    refine ⟨hlate, hmode, not_not.1 fun hrecall => ?_⟩
    obtain ⟨ctx', hends, -⟩ := scope_yields_lookedUp hmode hrecall
    exact BreaksOff.not_of_yields hends hbreaks
  · rintro ⟨hlate, hmode, hrecall⟩
    exact scope_breaksOff hmode hw hlate hrecall

end LoginCommand

end WebLogin
