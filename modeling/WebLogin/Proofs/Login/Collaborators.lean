/-
Those who take part in a login and keep to themselves.

Remembering a login is a matter of cookies: neither the session of a request nor its principal
changes by it. A session strategy that does not move the request has only to say yes or no.

* `RememberMe.reserved_null`, `RememberMeConfig.reserved_service` — the ways of remembering that
  there are;
* `SessionStrategy.aside_null`, `SessionStrategy.aside_refusing` — strategies that say yes or no.
-/
import WebLogin.Proofs.Login.Requests

namespace WebLogin

variable {σ τ ε : Type} {M : StoreModel σ τ} {store : SessionStore (StateT σ (Except ε))}
  {k : Nat} {s s' : σ}

/-- The request belongs to the same session and is bound to the same principal. -/
structure RequestContext.SameLogin (ctx ctx' : RequestContext) : Prop where
  sessionId : ctx'.sessionId = ctx.sessionId
  principal : ctx'.principal = ctx.principal

theorem RequestContext.SameLogin.refl (ctx : RequestContext) : ctx.SameLogin ctx := ⟨rfl, rfl⟩

theorem RequestContext.SameLogin.trans {ctx ctx₁ ctx' : RequestContext} (h : ctx.SameLogin ctx₁)
    (h' : ctx₁.SameLogin ctx') : ctx.SameLogin ctx' :=
  ⟨h'.sessionId.trans h.sessionId, h'.principal.trans h.principal⟩

/-! ### Remembering logins -/

/-- Somebody who remembers logins, leaves the sessions alone, and leaves to a request its session
and its principal. -/
structure RememberMe.Reserved (M : StoreModel σ τ) (rm : RememberMe (StateT σ (Except ε))) :
    Prop where
  autoLogin : ∀ {k s} ctx, M.valid k s → ∃ ctx' p s',
    Yields (rm.autoLogin ctx) s (ctx', p) s' ∧ M.Same k s s' ∧ ctx.SameLogin ctx'
  loginSuccess : ∀ {k s} ctx p, M.valid k s → ∃ ctx' s',
    Yields (rm.loginSuccess ctx p) s ctx' s' ∧ M.Same k s s' ∧ ctx.SameLogin ctx'
  loginFail : ∀ {k s} ctx, M.valid k s → ∃ ctx' s',
    Yields (rm.loginFail ctx) s ctx' s' ∧ M.Same k s s' ∧ ctx.SameLogin ctx'

theorem RememberMe.reserved_null :
    (RememberMe.null : RememberMe (StateT σ (Except ε))).Reserved M where
  autoLogin ctx hs := ⟨ctx, none, _, .pure _ _, .refl hs, .refl ctx⟩
  loginSuccess ctx _ hs := ⟨ctx, _, .pure _ _, .refl hs, .refl ctx⟩
  loginFail ctx hs := ⟨ctx, _, .pure _ _, .refl hs, .refl ctx⟩

namespace RememberMeConfig

theorem sameLogin_autoLogin (rc : RememberMeConfig) (now : Timestamp) (ctx : RequestContext) :
    ctx.SameLogin (rc.autoLogin now ctx).1 := by
  rw [autoLogin]
  split
  · exact .refl ctx
  · split
    · exact .refl ctx
    · exact ⟨rfl, rfl⟩

theorem sameLogin_loginSuccess (rc : RememberMeConfig) (now : Timestamp) (ctx : RequestContext)
    (p : Principal) : ctx.SameLogin (rc.loginSuccess now ctx p) := by
  rw [loginSuccess]
  split
  · exact ⟨rfl, rfl⟩
  · exact .refl ctx

theorem reserved_service (rc : RememberMeConfig) {clock : StateT σ (Except ε) Timestamp}
    (hclock : ∀ s, ∃ t, Yields clock s t s) : (rc.service clock).Reserved M where
  autoLogin {_ s} ctx hs := by
    obtain ⟨t, ht⟩ := hclock s
    exact ⟨_, _, s, ht.bind (.pure (rc.autoLogin t ctx) s), .refl hs, rc.sameLogin_autoLogin t ctx⟩
  loginSuccess {_ s} ctx p hs := by
    obtain ⟨t, ht⟩ := hclock s
    exact ⟨_, s, ht.bind (.pure (rc.loginSuccess t ctx p) s), .refl hs,
      rc.sameLogin_loginSuccess t ctx p⟩
  loginFail ctx hs := ⟨_, _, .pure _ _, .refl hs, rfl, rfl⟩

end RememberMeConfig

/-- A login that fails leaves everything as it was, but for what remembering does about it. -/
theorem Authentication.fail_reserved {a : Authentication (StateT σ (Except ε))}
    (hrm : a.rememberMe.Reserved M) (hs : M.valid k s) (ctx : RequestContext) (f : LoginFailure) :
    ∃ ctx' s', Yields (a.fail ctx f) s (ctx', .error f) s' ∧ M.Same k s s' ∧
      ctx.SameLogin ctx' := by
  obtain ⟨ctx', s', hfail, hsame, hctx⟩ := hrm.loginFail ctx hs
  exact ⟨ctx', s', hfail.bind (.pure _ _), hsame, hctx⟩

/-! ### Strategies -/

namespace SessionStrategy

/-- A strategy that leaves the request and the sessions alone. It may refuse a login. -/
def Aside (M : StoreModel σ τ) (strategy : SessionStrategy (StateT σ (Except ε))) : Prop :=
  ∀ {k s} ctx p, M.valid k s →
    ∃ r s', Yields (strategy.onAuthentication ctx p) s (ctx, r) s' ∧ M.Same k s s'

/-- The strategy that refuses every login. -/
def refusing (text : String) : SessionStrategy (StateT σ (Except ε)) where
  onAuthentication ctx _ := return (ctx, .error (.rejected text))

theorem aside_null : (null : SessionStrategy (StateT σ (Except ε))).Aside M :=
  fun _ _ hs => ⟨_, _, .pure _ _, .refl hs⟩

theorem aside_refusing (text : String) :
    (refusing text : SessionStrategy (StateT σ (Except ε))).Aside M :=
  fun _ _ hs => ⟨_, _, .pure _ _, .refl hs⟩

end SessionStrategy

end WebLogin
