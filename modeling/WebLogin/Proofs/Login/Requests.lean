/-
Requests to a started login command.

A request is a scope, a login or a logout, made with any context. Beside the store it meets a
verifier, somebody who remembers logins and the handlers of a logout; what is asked of them here is
that they put nobody into a session.

* `LoginCommand.scope_of_some` — the scope of a request in which somebody is remembered;
* `RememberMeConfig.apart_service` — remembering by tokens has nothing to do with sessions;
* `LogoutHandler.harmless_securityContext`, `harmless_cookieClearing`, `harmless_rememberMe` — the
  handlers that there are put nobody into a session.
-/
import WebLogin.Proofs.Login.Turns
import WebLogin.RememberMe.Service

namespace WebLogin

/-- What is asked of a login command. -/
inductive LoginRequest where
  | scope (ctx : RequestContext)
  | login (ctx : RequestContext) (username password : String)
  | logout (ctx : RequestContext) (principal : Option Principal)

inductive LoginOutcome where
  | scope (step : Step ScopeError Unit)
  | login (step : Step LoginError Principal)
  | logout (step : Step LogoutError Unit)

def LoginCommand.serve {m : Type → Type} [Monad m] (c : LoginCommand m) :
    LoginRequest → m LoginOutcome
  | .scope ctx => return .scope (← c.scope ctx)
  | .login ctx username password => return .login (← c.login ctx username password)
  | .logout ctx principal => return .logout (← c.logout ctx principal)

variable {σ τ ε : Type} {M : StoreModel σ τ} {store : SessionStore (StateT σ (Except ε))}
  {fails : StoreOp → Prop} {k : Nat} {s s' s'' : σ}

namespace LoginCommand

/-- A principal that is remembered is bound to the request and its session. -/
theorem scope_of_some {c : LoginCommand (StateT σ (Except ε))}
    {handlers : List (LogoutHandler (StateT σ (Except ε)))}
    {b : SessionBinder (StateT σ (Except ε))} {ctx ctx₁ ctx₂ ctx₃ : RequestContext}
    {s₁ s₂ s₃ : σ} {p : Principal} {r : Except StoreError Unit}
    (hc : c.started = some ⟨handlers, b⟩) (hrestore : Yields (b.restore ctx) s (ctx₁, .ok ()) s₁)
    (hp : ctx₁.principal = none)
    (hauto : Yields (c.config.rememberMe.autoLogin ctx₁) s₁ (ctx₂, some p) s₂)
    (hbind : Yields (b.bind ctx₂ p) s₂ (ctx₃, r) s₃) :
    Yields (c.scope ctx) s (ctx₃, r.mapError .store) s₃ := by
  simp only [scope, hc]
  refine hrestore.bind ?_
  simp only [RequestContext.isAuthenticated, hp, Option.isSome_none, Bool.false_eq_true, if_false]
  exact hauto.bind (hbind.bind (Yields.pure _ _))

end LoginCommand

namespace StoreModel

/-- From one state to the other, nobody has come into a session that nobody was in. -/
structure Guarded (M : StoreModel σ τ) (k : Nat) (s s' : σ) : Prop where
  valid : M.valid k s'
  known : ∀ {id}, M.known s id → M.known s' id
  nobody : ∀ {id}, M.known s id → M.holder s id = none → M.holder s' id = none

theorem Same.guarded (h : M.Same k s s') : M.Guarded k s s' where
  valid := h.valid
  known hid := h.known ▸ hid
  nobody _ hp := by rwa [h.holder]

theorem Guarded.trans {k' : Nat} (h : M.Guarded k s s') (h' : M.Guarded k' s' s'') :
    M.Guarded k' s s'' where
  valid := h'.valid
  known hid := h'.known (h.known hid)
  nobody hid hp := h'.nobody (h.known hid) (h.nobody hid hp)

theorem holder_of_view {id : SessionId} {entry : Option (Session × τ)} (h : M.view s id = entry) :
    M.holder s id = entry.bind fun e => e.1.principal := by
  rw [holder, session?, h]
  cases entry <;> rfl

/-- A session that was removed holds nobody. -/
theorem Writes.guarded_none {id : SessionId} (h : M.Writes k s id none s') : M.Guarded k s s' where
  valid := h.valid
  known hid := h.known ▸ hid
  nobody {id'} _ hp := by
    by_cases hid : id' = id
    · have hview : M.view s' id' = none := by rw [h.view, hid, Function.update_self]
      rw [holder_of_view hview, Option.bind_none]
    · have hview : M.view s' id' = M.view s id' := by rw [h.view, Function.update_of_ne hid]
      rw [holder_of_view hview]
      exact (holder_of_view rfl).symm.trans hp

end StoreModel

/-! ### Those who have nothing to do with sessions -/

/-- A verifier that leaves the sessions alone. -/
def Verifier.Apart (M : StoreModel σ τ) (v : Verifier (StateT σ (Except ε))) : Prop :=
  ∀ {k s} credential, M.valid k s →
    ∃ r s', Yields (v.verify credential) s r s' ∧ M.Same k s s'

/-- Somebody who remembers logins and leaves the sessions alone. A request that is remembered keeps
its session. -/
structure RememberMe.Apart (M : StoreModel σ τ) (rm : RememberMe (StateT σ (Except ε))) :
    Prop where
  autoLogin : ∀ {k s} ctx, M.valid k s → ∃ ctx' p s',
    Yields (rm.autoLogin ctx) s (ctx', p) s' ∧ M.Same k s s' ∧ ctx'.sessionId = ctx.sessionId
  loginSuccess : ∀ {k s} ctx p, M.valid k s → ∃ ctx' s',
    Yields (rm.loginSuccess ctx p) s ctx' s' ∧ M.Same k s s'
  loginFail : ∀ {k s} ctx, M.valid k s → ∃ ctx' s',
    Yields (rm.loginFail ctx) s ctx' s' ∧ M.Same k s s'

theorem RememberMe.apart_null : (RememberMe.null : RememberMe (StateT σ (Except ε))).Apart M where
  autoLogin ctx hs := ⟨ctx, none, _, .pure _ _, .refl hs, rfl⟩
  loginSuccess ctx _ hs := ⟨ctx, _, .pure _ _, .refl hs⟩
  loginFail ctx hs := ⟨ctx, _, .pure _ _, .refl hs⟩

theorem RememberMeConfig.autoLogin_sessionId (rc : RememberMeConfig) (now : Timestamp)
    (ctx : RequestContext) : (rc.autoLogin now ctx).1.sessionId = ctx.sessionId := by
  rw [autoLogin]
  split
  · rfl
  · split <;> rfl

theorem RememberMeConfig.apart_service (rc : RememberMeConfig)
    {clock : StateT σ (Except ε) Timestamp} (hclock : ∀ s, ∃ t, Yields clock s t s) :
    (rc.service clock).Apart M where
  autoLogin {_ s} ctx hs := by
    obtain ⟨t, ht⟩ := hclock s
    exact ⟨_, _, s, ht.bind (.pure (rc.autoLogin t ctx) s), .refl hs, rc.autoLogin_sessionId t ctx⟩
  loginSuccess {_ s} ctx p hs := by
    obtain ⟨t, ht⟩ := hclock s
    exact ⟨_, s, ht.bind (.pure (rc.loginSuccess t ctx p) s), .refl hs⟩
  loginFail ctx hs := ⟨_, _, .pure _ _, .refl hs⟩

/-! ### Handlers -/

namespace LogoutHandler

/-- A handler that puts nobody into a session. -/
def Harmless (M : StoreModel σ τ) (handler : LogoutHandler (StateT σ (Except ε))) : Prop :=
  ∀ {k s} ctx p, M.valid k s →
    ∃ ctx' r s', Yields (handler.cleanup ctx p) s (ctx', r) s' ∧ M.Guarded k s s'

theorem harmless_cookieClearing (names : List String) :
    (cookieClearing names : LogoutHandler (StateT σ (Except ε))).Harmless M :=
  fun _ _ hs => ⟨_, _, _, .pure _ _, (StoreModel.Same.refl hs).guarded⟩

theorem harmless_rememberMe (rc : RememberMeConfig) :
    (rc.handler : LogoutHandler (StateT σ (Except ε))).Harmless M :=
  fun _ _ hs => ⟨_, _, _, .pure _ _, (StoreModel.Same.refl hs).guarded⟩

theorem harmless_securityContext (h : M.Laws store fails) (ends : Bool) :
    (securityContext (some store) ends).Harmless M := by
  intro k s ctx p hs
  cases hid : ctx.sessionId with
  | none =>
    refine ⟨ctx, .ok (), s, ?_, (StoreModel.Same.refl hs).guarded⟩
    simp only [securityContext, hid]
    cases ends <;> exact .pure _ _
  | some id =>
    cases ends with
    | false => exact ⟨ctx, .ok (), s, .pure _ _, (StoreModel.Same.refl hs).guarded⟩
    | true =>
      have hcleanup {r : Except StoreError Unit} {s₁ : σ}
          (hr : Yields (store.invalidate id) s r s₁) :
          Yields ((securityContext (some store) true).cleanup ctx p) s
            (ctx.withSession none, r.mapError .store) s₁ := by
        simp only [securityContext, hid]
        exact hr.bind (.pure _ _)
      rcases h.invalidate id hs with ⟨s₁, hr, hw⟩ | ⟨-, e, s₁, hr, hsame⟩
      · exact ⟨_, _, s₁, hcleanup hr, hw.guarded_none⟩
      · exact ⟨_, _, s₁, hcleanup hr, hsame.guarded⟩

end LogoutHandler

theorem LogoutSequence.runHandlers_guarded (p : Option Principal)
    {handlers : List (LogoutHandler (StateT σ (Except ε)))} (hall : ∀ h ∈ handlers, h.Harmless M)
    (ctx : RequestContext) (hs : M.valid k s) :
    ∃ ctx' failures s', Yields (runHandlers p handlers ctx) s (ctx', failures) s' ∧
      M.Guarded k s s' := by
  induction handlers generalizing ctx s with
  | nil => exact ⟨ctx, [], s, .pure _ _, (StoreModel.Same.refl hs).guarded⟩
  | cons handler rest ih =>
    obtain ⟨ctx₁, r, s₁, hfirst, hg⟩ := hall handler List.mem_cons_self ctx p hs
    obtain ⟨ctx₂, failures, s₂, hrest, hg₂⟩ :=
      ih (fun h hmem => hall h (List.mem_cons_of_mem handler hmem)) ctx₁ hg.valid
    exact ⟨ctx₂, _, s₂, hfirst.bind (hrest.bind (.pure _ _)), hg.trans hg₂⟩

end WebLogin
