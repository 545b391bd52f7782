/-
Who is asked during a login, in which order, and what is made of the answers.

A name that is no username gets nowhere. The verifier is asked next, then the principal is bound,
then the session strategy is asked, and remember-me is told last and once, of a success or of a
failure. Binding and taking back ask the store, and binding fails exactly if the store does.

* `Attempt` — the courses that a login can take;
* `Authentication.bind_tells` — binding a principal and asking the strategy;
* `LoginCommand.login_attempt` — a login takes one of these courses, whoever takes part in it.
-/
import WebLogin.Proofs.Login.Calls

namespace WebLogin

variable {σ ε : Type} {inv : σ → Prop}

/-- The reason that a verifier gives. -/
def VerificationError.reason : VerificationError → FailureReason
  | unknownIdentity => .unknownIdentity
  | badCredential => .badCredential
  | disabled => .disabled
  | other _ => .other

theorem LoginFailure.ofVerificationError_eq (e : VerificationError) :
    ofVerificationError e = ⟨e.reason, e.message⟩ := by
  cases e <;> rfl

/-- The courses that a login can take: all calls in order, and how the login ends. In between, the
binder may call its store, of which nothing is said but whether a call has failed. -/
inductive Attempt (b : SessionBinder (StateT σ (Except ε))) (username password : String)
    (ctx : RequestContext) : List LoginCall → Step LoginError Principal → Prop where
  /-- The name is no username. -/
  | unnamed {e : UsernameError} {ctx' : RequestContext}
      (parse : Credential.parse username password = .error e) :
      Attempt b username password ctx [.loginFail ctx ctx']
        (ctx', .error (.failed ⟨.unknownIdentity, e.message⟩))
  /-- The verifier does not vouch for the credential. -/
  | turnedAway {credential : Credential} {e : VerificationError} {ctx' : RequestContext}
      (parse : Credential.parse username password = .ok credential) :
      Attempt b username password ctx [.verify credential (.error e), .loginFail ctx ctx']
        (ctx', .error (.failed ⟨e.reason, e.message⟩))
  /-- The principal cannot be bound, because a call of the store has failed. -/
  | unbound {credential : Credential} {identity : VerifiedIdentity}
      {binding undoing : List LoginCall} {e : StoreError} {ctx₁ ctx' : RequestContext}
      (parse : Credential.parse username password = .ok credential) (called : b.Called binding)
      (outcome : StoreOutcome binding (.error e : Except StoreError Unit))
      (undone : b.Called undoing) (nobody : ctx₁.principal = none) :
      Attempt b username password ctx
        (.verify credential (.ok identity) :: (binding ++ (undoing ++ [.loginFail ctx₁ ctx'])))
        (ctx', .error (.failed ⟨.other, e.message⟩))
  /-- The principal is bound, and the strategy fails. -/
  | refused {credential : Credential} {identity : VerifiedIdentity}
      {binding undoing : List LoginCall} {ctx₁ ctx₂ ctx₃ ctx' : RequestContext} {p : Principal}
      {e : StrategyError} (parse : Credential.parse username password = .ok credential)
      (verified : p = ⟨identity.name, identity.authorities⟩) (called : b.Called binding)
      (outcome : StoreOutcome binding (.ok ())) (bound : ctx₁.principal = some p)
      (undone : b.Called undoing) (nobody : ctx₃.principal = none) :
      Attempt b username password ctx
        (.verify credential (.ok identity) :: (binding ++
          (.onAuthentication ctx₁ p (ctx₂, .error e) :: (undoing ++ [.loginFail ctx₃ ctx']))))
        (ctx', .error (.failed ⟨.other, e.message⟩))
  /-- The principal is bound and logged in. -/
  | admitted {credential : Credential} {identity : VerifiedIdentity} {binding : List LoginCall}
      {ctx₁ ctx₂ ctx' : RequestContext} {p : Principal}
      (parse : Credential.parse username password = .ok credential)
      (verified : p = ⟨identity.name, identity.authorities⟩) (called : b.Called binding)
      (outcome : StoreOutcome binding (.ok ())) (bound : ctx₁.principal = some p)
      (still : ctx₂.principal = some p) :
      Attempt b username password ctx
        (.verify credential (.ok identity) :: (binding ++
          [.onAuthentication ctx₁ p (ctx₂, .ok ()), .loginSuccess ctx₂ p ctx']))
        (ctx', .ok p)

namespace Attempt

variable {b : SessionBinder (StateT σ (Except ε))} {username password : String}
  {ctx : RequestContext} {calls : List LoginCall} {step : Step LoginError Principal}

/-- A login succeeds exactly if remember-me is told of a success. -/
theorem isOk_iff (h : Attempt b username password ctx calls step) :
    (∃ p, step.2 = .ok p) ↔ ∃ ctx₁ p ctx₂, .loginSuccess ctx₁ p ctx₂ ∈ calls := by
  -- A binder does not call remember-me.
  have hbinder {calls : List LoginCall} (hcalled : b.Called calls) (ctx₁ : RequestContext)
      (p : Principal) (ctx₂ : RequestContext) : .loginSuccess ctx₁ p ctx₂ ∉ calls :=
    not_mem_of_hooks hcalled.hooks_eq_nil rfl
  cases h with
  | unnamed => simp
  | turnedAway => simp
  | unbound _ called _ undone => simp [hbinder called, hbinder undone]
  | refused _ _ called _ _ undone => simp [hbinder called, hbinder undone]
  | @admitted _ _ _ _ ctx₂ ctx' p =>
    exact iff_of_true ⟨p, rfl⟩ ⟨ctx₂, p, ctx', by simp⟩

end Attempt

namespace SessionStrategy

/-- A strategy that never binds anybody else to a request. -/
def KeepsPrincipal (strategy : SessionStrategy (StateT σ (Except ε))) : Prop :=
  ∀ ctx p s ctx' r s', Yields (strategy.onAuthentication ctx p) s (ctx', r) s' →
    ctx'.principal = ctx.principal

theorem keepsPrincipal_changeId (store : SessionStore (StateT σ (Except ε))) :
    (changeId store).KeepsPrincipal := by
  intro ctx p s ctx' r s' h
  obtain ⟨moved, s₁, hmoved, h⟩ := Yields.of_bind h
  obtain ⟨id, hctx⟩ := eq_withSession_of_rotate hmoved
  rw [(Prod.mk.inj (h.eq (.pure _ _)).1).1, hctx]
  rfl

end SessionStrategy

namespace Authentication

/-- Everybody who takes part in a login answers, in whatever way. -/
structure Responds (inv : σ → Prop) (a : Authentication (StateT σ (Except ε))) : Prop where
  verify : ∀ credential, WebLogin.Responds inv (a.verifier.verify credential)
  binder : a.binder.Responds inv
  onAuthentication : ∀ ctx p, WebLogin.Responds inv (a.strategy.onAuthentication ctx p)
  loginSuccess : ∀ ctx p, WebLogin.Responds inv (a.rememberMe.loginSuccess ctx p)
  loginFail : ∀ ctx, WebLogin.Responds inv (a.rememberMe.loginFail ctx)

variable {a : Authentication (StateT σ (Except ε))}

theorem fail_tells (ha : a.Responds inv) (ctx : RequestContext) (f : LoginFailure) :
    Tells inv (fun calls step => ∃ ctx', calls = [.loginFail ctx ctx'] ∧ step = (ctx', .error f))
      (a.fail ctx f) (a.recorded.fail ctx f) :=
  .ask (ha.loginFail ctx) fun ctx' _ _ _ => .pure ⟨ctx', rfl, rfl⟩

/-- A failure after the verifier has agreed is told when the principal was taken from the request,
even if the store did not give up the session. -/
theorem rollback_tells (ha : a.Responds inv) (ctx : RequestContext) (f : LoginFailure) :
    Tells inv (fun calls step => ∃ undoing ctx₁ ctx', calls = undoing ++ [.loginFail ctx₁ ctx'] ∧
        a.binder.Called undoing ∧ ctx₁.principal = none ∧ step = (ctx', .error f))
      (do let (ctx, _) ← a.binder.unbind ctx; a.fail ctx f)
      (do let (ctx, _) ← a.recorded.binder.unbind ctx; a.recorded.fail ctx f) := by
  refine (SessionBinder.unbind_tells ha.binder ctx).bind ?_
  rintro calls ⟨ctx₁, taken⟩ ⟨hcalled, hctx⟩
  obtain rfl : ctx₁ = ctx.unbindPrincipal := hctx
  refine (fail_tells ha ctx.unbindPrincipal f).mono ?_
  rintro calls' step ⟨ctx', rfl, rfl⟩
  exact ⟨calls, _, ctx', rfl, hcalled, rfl, rfl⟩

/-- Three things can come of binding a principal and asking the strategy. -/
theorem bind_tells (ha : a.Responds inv) (hstrategy : a.strategy.KeepsPrincipal)
    (ctx : RequestContext) (p : Principal) :
    Tells inv (fun calls step =>
        (∃ e, a.binder.Called calls ∧ StoreOutcome calls (.error e : Except StoreError Unit) ∧
          step.2 = .error ⟨.other, e.message⟩) ∨
        ∃ binding ctx₁, a.binder.Called binding ∧ StoreOutcome binding (.ok ()) ∧
          ctx₁.principal = some p ∧
          ((∃ e, calls = binding ++ [.onAuthentication ctx₁ p (step.1, .error e)] ∧
              step.2 = .error ⟨.other, e.message⟩) ∨
            calls = binding ++ [.onAuthentication ctx₁ p (step.1, .ok ())] ∧
              step.1.principal = some p ∧ step.2 = .ok ()))
      (a.bind ctx p) (a.recorded.bind ctx p) := by
  refine (SessionBinder.bind_tells ha.binder ctx p).bind ?_
  rintro calls ⟨ctx₁, r⟩ ⟨hcalled, houtcome, -, hbound⟩
  cases r with
  | error e =>
    refine .pure (.inl ⟨e, ?_⟩)
    rw [List.append_nil]
    exact ⟨hcalled, houtcome, rfl⟩
  | ok u =>
    refine .ask (ha.onAuthentication ctx₁ p) ?_
    rintro ⟨ctx₂, r⟩ s s' hasked
    have hkept : ctx₂.principal = some p := (hstrategy _ _ _ _ _ _ hasked).trans (hbound rfl)
    refine .pure (.inr ⟨calls, ctx₁, hcalled, houtcome, hbound rfl, ?_⟩)
    cases r with
    | error e => exact .inl ⟨e, rfl, rfl⟩
    | ok u => exact .inr ⟨rfl, hkept, rfl⟩

/-- A login whose credential was verified takes one of the three courses that are left. -/
theorem complete_tells (ha : a.Responds inv) (hstrategy : a.strategy.KeepsPrincipal)
    {username password : String} {credential : Credential} {identity : VerifiedIdentity}
    (hparse : Credential.parse username password = .ok credential) (ctx : RequestContext) :
    Tells inv (fun calls step =>
        Attempt a.binder username password ctx (.verify credential (.ok identity) :: calls)
          (step.1, step.2.mapError .failed))
      (a.complete ctx (.ofIdentity identity)) (a.recorded.complete ctx (.ofIdentity identity)) := by
  refine (bind_tells ha hstrategy ctx _).bind ?_
  rintro calls ⟨ctx₂, r⟩ hcalls
  -- Whether the store or the strategy has failed, the principal is taken back.
  rcases hcalls with ⟨e, hcalled, houtcome, rfl⟩ |
    ⟨binding, ctx₁, hcalled, houtcome, hbound, ⟨e, rfl, rfl⟩ | ⟨rfl, hstill, rfl⟩⟩
  · refine (rollback_tells ha ctx₂ ⟨.other, e.message⟩).mono ?_
    rintro calls' step ⟨undoing, ctx₃, ctx', rfl, hundone, hnobody, rfl⟩
    exact .unbound hparse hcalled houtcome hundone hnobody
  · refine (rollback_tells ha ctx₂ ⟨.other, e.message⟩).mono ?_
    rintro calls' step ⟨undoing, ctx₃, ctx', rfl, hundone, hnobody, rfl⟩
    rw [List.append_assoc]
    exact .refused hparse rfl hcalled houtcome hbound hundone hnobody
  · refine .ask (ha.loginSuccess ctx₂ _) fun ctx' _ _ _ => .pure ?_
    rw [List.append_assoc]
    exact .admitted hparse rfl hcalled houtcome hbound hstill

theorem run_tells (ha : a.Responds inv) (hstrategy : a.strategy.KeepsPrincipal)
    (ctx : RequestContext) (username password : String) :
    Tells inv (fun calls step =>
        Attempt a.binder username password ctx calls (step.1, step.2.mapError .failed))
      (a.run ctx username password) (a.recorded.run ctx username password) := by
  rw [run, run]
  cases hparse : Credential.parse username password with
  | error e =>
    refine (fail_tells ha ctx (.ofUsernameError e)).mono ?_
    rintro calls step ⟨ctx', rfl, rfl⟩
    exact .unnamed hparse
  | ok credential =>
    refine .ask (ha.verify credential) ?_
    intro answer _ _ _
    cases answer with
    | ok identity => exact complete_tells ha hstrategy hparse ctx
    | error e =>
      refine (fail_tells ha ctx (.ofVerificationError e)).mono ?_
      rintro calls step ⟨ctx', rfl, rfl⟩
      rw [LoginFailure.ofVerificationError_eq]
      exact .turnedAway hparse

end Authentication

/-- A login with a started command, whichever mode it is in and whoever takes part in it, ends and
takes one of the courses of `Attempt`; that it was recorded made no difference. It succeeds exactly
if remember-me is told of a success. -/
theorem LoginCommand.login_attempt {c : LoginCommand (StateT σ (Except ε))}
    {seq : LogoutSequence (StateT σ (Except ε))} (hstarted : c.started = some seq)
    (hc : (c.authentication seq).Responds inv) (hstrategy : c.config.strategy.KeepsPrincipal)
    (ctx : RequestContext) (username password : String) {s : σ} (hs : inv s) :
    ∃ calls ctx' r s', Makes (c.login ctx username password)
        (c.recorded.login ctx username password) s calls (ctx', r) s' ∧ inv s' ∧
      Attempt seq.binder username password ctx calls (ctx', r) ∧
      ((∃ p, r = .ok p) ↔ ∃ ctx₁ p ctx₂, .loginSuccess ctx₁ p ctx₂ ∈ calls) := by
  have hlogin : Tells inv (fun calls step => Attempt seq.binder username password ctx calls step)
      (c.login ctx username password) (c.recorded.login ctx username password) := by
    simp only [login, hstarted, recorded_started hstarted]
    refine (Authentication.run_tells hc hstrategy ctx username password).bind
      fun calls step hattempt => .pure ?_
    rw [List.append_nil]
    exact hattempt
  obtain ⟨calls, ⟨ctx', r⟩, s', hmakes, hs', hattempt⟩ := hlogin s hs
  exact ⟨calls, ctx', r, s', hmakes, hs', hattempt, hattempt.isOk_iff⟩

/-- A store that is out of order. -/
def SessionStore.broken : SessionStore (StateT σ (Except ε)) where
  create := return .error (.unexpected "out of order")
  get _ := return .error (.unexpected "out of order")
  save _ := return .error (.unexpected "out of order")
  invalidate _ := return .error (.unexpected "out of order")

namespace LoginCommand

/-- A command that trusts everybody, before a store that is out of order. -/
def stranded : LoginCommand (StateT Unit (Except Empty)) where
  config :=
    { verifier := ⟨fun credential => return .ok ⟨credential.username.text, .empty⟩⟩
      store := some .broken
      strategy := .changeId .broken
      rememberMe := .null
      handlers := some []
      mode := .perSession
      invalidateSession := true }
  started := some ⟨[], .perSession .broken⟩

/-- Alice is verified, but there is no session that she could be bound to. -/
theorem login_attempt_stranded :
    ∃ calls r, Makes (stranded.login {} "alice" "1234") (stranded.recorded.login {} "alice" "1234")
        () calls ({}, r) () ∧
      Attempt (.perSession .broken : SessionBinder (StateT Unit (Except Empty))) "alice" "1234" {}
        calls ({}, r) ∧ ∀ p, r ≠ .ok p := by
  have hpure {α : Type} (a : α) :
      Responds (fun _ => True) (pure a : StateT Unit (Except Empty) α) :=
    fun s _ => ⟨a, s, .pure a s, trivial⟩
  have hmoves (ctx : RequestContext) (p : Principal) :
      Responds (fun _ => True) (stranded.config.strategy.onAuthentication ctx p) := by
    obtain ⟨id, cookies, pending, principal⟩ := ctx
    intro s _
    cases id with
    | none => exact ⟨_, s, rfl, trivial⟩
    | some id => exact ⟨_, s, rfl, trivial⟩
  have hc : (stranded.authentication ⟨[], .perSession .broken⟩).Responds fun _ => True :=
    ⟨fun _ => hpure _, ⟨hpure _, fun _ => hpure _, fun _ => hpure _, fun _ => hpure _⟩, hmoves,
      fun _ _ => hpure _, fun _ => hpure _⟩
  obtain ⟨calls, ctx', r, s', hmakes, -, hattempt, -⟩ := login_attempt rfl hc
    (SessionStrategy.keepsPrincipal_changeId .broken) {} "alice" "1234" (s := ()) trivial
  have hlogin : Yields (stranded.login {} "alice" "1234") ()
      ({}, .error (.failed ⟨.other, "Unexpected error: out of order"⟩)) () := by
    rfl
  obtain ⟨hstep, rfl⟩ := hmakes.yields.eq hlogin
  obtain ⟨rfl, rfl⟩ := Prod.mk.inj hstep
  exact ⟨calls, _, hmakes, hattempt, by simp⟩

end LoginCommand

end WebLogin
