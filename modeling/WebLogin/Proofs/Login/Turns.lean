/-
What one request does to the sessions.

A request comes with the id of a session or with none, and leaves with one or none. A `Turn` is
what every request has in common: it leaves with the id it came with, with none, or with one that
was never in use, and it touches no other session that is in use.

* `scope_yields_restored` — the scope of a request in which nobody is remembered;
* `bind_moves` — what is left of the sessions when a login has moved a request to a new one;
* `complete_turn` — a login, which moves the request to a new session;
* `logout_of_handlers` — how a logout ends, whatever its handlers did;
* `logout_turn` — a logout.
-/
import WebLogin.Login.Command
import WebLogin.Proofs.Session.Steps

namespace WebLogin

variable {σ τ ε : Type} {M : StoreModel σ τ} {store : SessionStore (StateT σ (Except ε))}
  {fails : StoreOp → Prop} {k : Nat} {s : σ}

namespace StoreModel

/-- What a request did that came with one session and left with another one. -/
structure Turn (M : StoreModel σ τ) (k : Nat) (s : σ) (old new : Option SessionId) (s' : σ) :
    Prop where
  valid : M.valid k s'
  origin : ∀ id, new = some id → old = some id ∨ ¬M.known s id
  known : ∀ id, new = some id → M.known s' id
  known_mono : ∀ id, M.known s id → M.known s' id
  others : ∀ id, M.known s id → old ≠ some id → M.view s' id = M.view s id

/-- A turn that only looks at the session. -/
theorem Same.turn {s' : σ} {old new : Option SessionId} (h : M.Same k s s')
    (hnew : ∀ id, new = some id → old = some id)
    (hknown : ∀ id, old = some id → M.known s id) : M.Turn k s old new s' where
  valid := h.valid
  origin id hid := .inl (hnew id hid)
  known id hid := by
    rw [h.known]
    exact hknown id (hnew id hid)
  known_mono id hid := h.known ▸ hid
  others id _ _ := by rw [h.view]

/-- A turn may as well start where nothing had changed yet. -/
theorem Turn.after {s₁ s' : σ} {old new : Option SessionId} (h : M.Turn k s₁ old new s')
    (hknown : M.known s₁ = M.known s) (hview : M.view s₁ = M.view s) :
    M.Turn k s old new s' where
  valid := h.valid
  origin := hknown ▸ h.origin
  known := h.known
  known_mono := hknown ▸ h.known_mono
  others := hknown ▸ hview ▸ h.others

/-- A turn of a request that had lost its session is one of the request before that. -/
theorem Turn.of_lost {s' : σ} {old mid new : Option SessionId} (h : M.Turn k s mid new s')
    (hlost : ∀ id, mid = some id → old = some id) : M.Turn k s old new s' where
  valid := h.valid
  origin id hid := (h.origin id hid).imp_left (hlost id)
  known := h.known
  known_mono := h.known_mono
  others id hid hne := h.others id hid fun hmid => hne (hlost id hmid)

end StoreModel

namespace LoginCommand

section Scope

variable {c : LoginCommand (StateT σ (Except ε))}
  {handlers : List (LogoutHandler (StateT σ (Except ε)))} {b : SessionBinder (StateT σ (Except ε))}
  {ctx ctx₁ : RequestContext} {s₁ : σ}

/-- A principal that was restored is that of the scope. -/
theorem scope_of_isSome (hc : c.started = some ⟨handlers, b⟩)
    (hrestore : Yields (b.restore ctx) s (ctx₁, .ok ()) s₁)
    (hp : ctx₁.principal.isSome) : Yields (c.scope ctx) s (ctx₁, .ok ()) s₁ := by
  simp only [scope, hc]
  refine hrestore.bind ?_
  simp only [RequestContext.isAuthenticated, hp, if_true]
  exact Yields.pure _ _

/-- If no principal was restored, remember-me is asked, and may know none either. -/
theorem scope_of_none (hc : c.started = some ⟨handlers, b⟩)
    (hrestore : Yields (b.restore ctx) s (ctx₁, .ok ()) s₁)
    (hp : ctx₁.principal = none) {ctx₂ : RequestContext} {s₂ : σ}
    (hauto : Yields (c.config.rememberMe.autoLogin ctx₁) s₁ (ctx₂, none) s₂) :
    Yields (c.scope ctx) s (ctx₂, .ok ()) s₂ := by
  simp only [scope, hc]
  refine hrestore.bind ?_
  simp only [RequestContext.isAuthenticated, hp, Option.isSome_none, Bool.false_eq_true, if_false]
  exact hauto.bind (Yields.pure _ _)

/-- The context of a request in its scope, if nobody is remembered. -/
def restored (M : StoreModel σ τ) (s : σ) (ctx : RequestContext) : RequestContext :=
  { ctx with
    sessionId := ctx.sessionId.filter fun id => (M.session? s id).isSome
    principal := ctx.sessionId.bind (M.holder s) }

theorem scope_yields_restored (h : M.Laws store fun _ => False) (hs : M.valid k s)
    (hc : c.started = some ⟨handlers, .perSession store⟩) (hrm : c.config.rememberMe = .null)
    (hp : ctx.principal = none) :
    ∃ s', Yields (c.scope ctx) s (restored M s ctx, .ok ()) s' ∧ M.Same k s s' := by
  obtain ⟨s', hrun, hsame⟩ := SessionBinder.restore_yields h not_false hs ctx
  rw [SessionBinder.restored_eq hp] at hrun
  refine ⟨s', ?_, hsame⟩
  cases hprincipal : (restored M s ctx).principal with
  | some p => exact scope_of_isSome hc hrun (Option.isSome_of_eq_some hprincipal)
  | none =>
    refine scope_of_none hc hrun hprincipal ?_
    rw [hrm]
    exact Yields.pure _ _

end Scope

/-- The id that a scope leaves to a request still names whoever was logged in. -/
theorem filter_bind_login? (M : StoreModel σ τ) (s : σ) (old : Option SessionId) :
    (old.filter fun id => (M.session? s id).isSome).bind (M.login? s) = old.bind (M.login? s) := by
  cases old with
  | none => rfl
  | some id =>
    rw [Option.filter_some]
    split
    · rfl
    · rename_i hnone
      rw [Option.not_isSome_iff_eq_none] at hnone
      rw [Option.bind_none, Option.bind_some, StoreModel.login?_eq_none hnone]

end LoginCommand

namespace Authentication

/-- What a login has written that moved a request from one session to a new one. -/
structure Moved (M : StoreModel σ τ) (k : Nat) (s : σ) (old : Option SessionId) (p : Principal)
    (new : SessionId) (s' : σ) : Prop where
  valid : M.valid k s'
  fresh : ¬M.known s new
  entry : M.view s' new = some (⟨new, some p⟩, M.stamp)
  known : M.known s' new
  known_mono : ∀ id, M.known s id → M.known s' id
  view : ∀ id, M.known s id → M.view s' id = if old = some id then none else M.view s id

/-- Binding a principal and changing the id of its session: the session that the request came with
is gone. -/
theorem bind_moves (h : M.Laws store fun _ => False) (hs : M.valid (k + 2) s)
    {a : Authentication (StateT σ (Except ε))} (hbinder : a.binder = .perSession store)
    (hstrategy : a.strategy = .changeId store) (ctx : RequestContext) (p : Principal) :
    ∃ new s', Yields (a.bind ctx p) s ((ctx.bindPrincipal p).withSession (some new), .ok ()) s' ∧
      Moved M k s ctx.sessionId p new s' := by
  obtain ⟨id, s₁, hbind, hbound⟩ := SessionBinder.bind_yields (k := k + 1) h not_false not_false
    not_false hs ctx p
  have hid : M.view s₁ id = some (⟨id, some p⟩, M.stamp) := by
    rw [hbound.view, Function.update_self]
  have hsession : M.session? s₁ id = some ⟨id, some p⟩ := by
    rw [StoreModel.session?, hid]
    rfl
  have hctx : ((ctx.withSession (some id)).bindPrincipal p).sessionId = some id := rfl
  obtain ⟨new, s', hmove, hrotated⟩ := SessionStrategy.rotate_yields (k := k) h not_false not_false
    not_false not_false hbound.valid hctx hsession
  -- The id of the new session was not in use when the session was moved, let alone before.
  have hfresh : ¬M.known s new := fun hknown => hrotated.fresh (hbound.known_mono new hknown)
  have hne : new ≠ id := fun heq => hrotated.fresh (heq ▸ hbound.known)
  refine ⟨new, s', ?_, hrotated.valid, hfresh, ?_, hrotated.known, ?_, ?_⟩
  · have htold : Yields ((SessionStrategy.changeId store).onAuthentication
        ((ctx.withSession (some id)).bindPrincipal p) p) s₁
        ((ctx.bindPrincipal p).withSession (some new), .ok ()) s' :=
      hmove.bind (Yields.pure _ _)
    simp only [Authentication.bind, hbinder, hstrategy]
    exact hbind.bind (htold.bind (Yields.pure _ _))
  · rw [hrotated.view, Function.update_of_ne hne, Function.update_self]
  · exact fun i hi => hrotated.known_mono i (hbound.known_mono i hi)
  · intro i hi
    have hi₂ : i ≠ new := fun heq => hfresh (heq ▸ hi)
    by_cases hi₁ : i = id
    · -- The session that was there is the one that the request came with.
      subst hi₁
      have hold : ctx.sessionId = some i := hbound.origin.resolve_right fun ho => ho.1 hi
      rw [if_pos hold, hrotated.view, Function.update_self]
    · rw [hrotated.view, Function.update_of_ne hi₁, Function.update_of_ne hi₂, hbound.view,
        Function.update_of_ne hi₁]
      split
      · -- The store did not know the session that the request named.
        rename_i hold
        have hnone : M.session? s i = none := by
          rcases hbound.origin with ho | ho
          · exact absurd (Option.some.inj (hold.symm.trans ho)) hi₁
          · exact ho.2 i hold
        exact Option.map_eq_none_iff.1 hnone
      · rfl

/-- A login moves the request to a new session that holds the principal. -/
theorem complete_turn (h : M.Laws store fun _ => False) (hs : M.valid (k + 2) s)
    {a : Authentication (StateT σ (Except ε))} (hbinder : a.binder = .perSession store)
    (hstrategy : a.strategy = .changeId store) (hrm : a.rememberMe = .null) (ctx : RequestContext)
    (p : Principal) :
    ∃ new s', Yields (a.complete ctx p) s
        ((ctx.bindPrincipal p).withSession (some new), .ok p) s' ∧
      M.Turn k s ctx.sessionId (some new) s' ∧ M.login? s' new = some (p, M.stamp) := by
  obtain ⟨new, s', hlogin, hmoved⟩ := bind_moves h hs hbinder hstrategy ctx p
  refine ⟨new, s', ?_, ⟨hmoved.valid, ?_, ?_, hmoved.known_mono, ?_⟩, ?_⟩
  · simp only [complete, hrm]
    exact hlogin.bind (Yields.bind (Yields.pure _ _) (Yields.pure _ _))
  · intro i hi
    exact .inr (Option.some.inj hi ▸ hmoved.fresh)
  · intro i hi
    exact Option.some.inj hi ▸ hmoved.known
  · intro i hi hold
    rw [hmoved.view i hi, if_neg hold]
  · rw [StoreModel.login?, hmoved.entry]
    rfl

end Authentication

namespace LoginCommand

/-- Once its handlers have run, a logout takes the principal from the session that the request still
names. -/
theorem logout_of_handlers (h : M.Laws store fails) (hget : ¬fails .get) (hsave : ¬fails .save)
    {c : LoginCommand (StateT σ (Except ε))} {handlers : List (LogoutHandler (StateT σ (Except ε)))}
    (hc : c.started = some ⟨handlers, .perSession store⟩) {ctx ctx₁ : RequestContext}
    {given : Option Principal} {failures : List StepFailure} {s₁ : σ}
    (hhandlers : Yields (LogoutSequence.runHandlers (given <|> ctx.principal) handlers ctx) s
      (ctx₁, failures) s₁) (hs₁ : M.valid k s₁) :
    ∃ s', Yields (c.logout ctx given) s
        (ctx₁.unbindPrincipal, LogoutSequence.resultOf failures) s' ∧ M.valid k s' ∧
      M.known s' = M.known s₁ ∧ M.view s' = SessionBinder.unboundView M s₁ ctx₁.sessionId := by
  obtain ⟨s', hrun, hvalid, hknown, hview⟩ := SessionBinder.unbind_yields h hget hsave hs₁ ctx₁
  refine ⟨s', ?_, hvalid, hknown, hview⟩
  rw [← List.append_nil failures]
  simp only [logout, hc]
  exact hhandlers.bind (hrun.bind (Yields.pure _ _))

/-- A logout with no other handlers than the usual one leaves nobody in the session. -/
theorem logout_turn (h : M.Laws store fun _ => False) (hs : M.valid k s) {ends : Bool}
    {c : LoginCommand (StateT σ (Except ε))}
    (hc : c.started = some ⟨[.securityContext (some store) ends], .perSession store⟩)
    {ctx : RequestContext} (hknown : ∀ id, ctx.sessionId = some id → M.known s id) :
    ∃ new s', Yields (c.logout ctx none) s (ctx.unbindPrincipal.withSession new, .ok ()) s' ∧
      M.Turn k s ctx.sessionId new s' ∧ new.bind (M.login? s') = none := by
  -- The handler that runs first decides which session is left to be unbound.
  have hunbind {ctx₁ : RequestContext} {s₁ : σ}
      (hfirst : Yields ((LogoutHandler.securityContext (some store) ends).cleanup ctx
        (none <|> ctx.principal)) s (ctx₁, .ok ()) s₁) (hs₁ : M.valid k s₁) :
      ∃ s', Yields (c.logout ctx none) s (ctx₁.unbindPrincipal, .ok ()) s' ∧ M.valid k s' ∧
        M.known s' = M.known s₁ ∧ M.view s' = SessionBinder.unboundView M s₁ ctx₁.sessionId :=
    logout_of_handlers h not_false not_false hc
      (hfirst.bind (Yields.bind (Yields.pure _ _) (Yields.pure _ _))) hs₁
  cases hid : ctx.sessionId with
  | none =>
    have hfirst : Yields ((LogoutHandler.securityContext (some store) ends).cleanup ctx
        (none <|> ctx.principal)) s (ctx, .ok ()) s := by
      simp only [LogoutHandler.securityContext, hid]
      cases ends <;> exact Yields.pure _ _
    obtain ⟨s', hrun, hvalid, hsame, hview⟩ := hunbind hfirst hs
    rw [hid] at hview
    refine ⟨none, s', ?_, StoreModel.Same.turn ⟨hvalid, hview, hsame⟩ (by simp) (by simp), rfl⟩
    rw [show ctx.unbindPrincipal.withSession none = ctx.unbindPrincipal by
      rw [← hid]; rfl]
    exact hrun
  | some id =>
    cases ends with
    | false =>
      obtain ⟨s', hrun, hvalid, hsame, hview⟩ := hunbind (Yields.pure _ _) hs
      rw [hid] at hview
      refine ⟨some id, s', ?_, ⟨hvalid, fun _ hnew => .inl hnew, ?_, ?_, ?_⟩, ?_⟩
      · rw [show ctx.unbindPrincipal.withSession (some id) = ctx.unbindPrincipal by
          rw [← hid]; rfl]
        exact hrun
      · intro i hi
        rw [hsame, ← Option.some.inj hi]
        exact hknown id hid
      · exact fun i hi => hsame ▸ hi
      · intro i _ hne
        rw [hview, SessionBinder.unboundView,
          Function.update_of_ne fun heq => hne (congrArg some heq.symm)]
      · rw [Option.bind_some, StoreModel.login?, hview, SessionBinder.unboundView,
          Function.update_self, SessionBinder.unboundEntry]
        cases M.view s id with
        | none => rfl
        | some e =>
          rw [Option.map_some, Option.bind_some]
          split
          · rfl
          · rename_i hnobody
            rw [Option.not_isSome_iff_eq_none] at hnobody
            rw [hnobody, Option.map_none]
    | true =>
      obtain ⟨s₁, hinvalidate, hw⟩ := h.invalidate_yields not_false hs id
      have hfirst : Yields ((LogoutHandler.securityContext (some store) true).cleanup ctx
          (none <|> ctx.principal)) s (ctx.withSession none, .ok ()) s₁ := by
        simp only [LogoutHandler.securityContext, hid]
        exact hinvalidate.bind (Yields.pure _ _)
      obtain ⟨s', hrun, hvalid, hsame, hview⟩ := hunbind hfirst hw.valid
      refine ⟨none, s', hrun, ⟨hvalid, by simp, by simp, ?_, ?_⟩, rfl⟩
      · intro i hi
        rw [hsame, hw.known]
        exact hi
      · intro i _ hne
        rw [hview]
        show M.view s₁ i = M.view s i
        rw [hw.view, Function.update_of_ne fun heq => hne (congrArg some heq.symm)]

end LoginCommand

end WebLogin
