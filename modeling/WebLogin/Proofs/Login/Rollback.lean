/-
A login that fails takes back what it has done, even when a call of the store fails.

The one call that fails may be any: one while the principal is bound, which leaves a new session or
none, one while the request is moved, which leaves a copy under a new id, or one of the rollback
itself. The first two leave a store that does not fail any more, so the rollback repairs all of it.
If the rollback is what fails, then the strategy has said no although nothing had failed, and the
principal stays in the session.

* `SessionBinder.bind_falters`, `SessionStrategy.rotate_falters`, `SessionBinder.unbind_falters` —
  what a step leaves behind when one of its calls fails;
* `Authentication.complete_takesBack` — binding, asking the strategy and rolling back;
* `LoginCommand.login_takesBack` — the whole login.
-/
import WebLogin.Proofs.Login.Protocol
import WebLogin.Proofs.Login.Sync
import WebLogin.Proofs.Store.Faults

namespace WebLogin

variable {σ τ ε : Type} {M : StoreModel σ τ} {store : SessionStore (StateT σ (Except ε))}
  {k : Nat} {w w' : σ × Schedule} {ctx : RequestContext} {id : SessionId} {p : Principal}

namespace StoreModel

/-- All sessions read as before but the one that the request has now. -/
def AllBut (M : StoreModel σ τ) (own : Option SessionId) (s s' : σ) : Prop :=
  ∀ id, own ≠ some id → M.view s' id = M.view s id

variable {s s₁ s' : σ} {own : Option SessionId}

theorem session?_congr (h : M.view s' = M.view s) : M.session? s' = M.session? s := by
  funext id
  rw [session?, h, session?]

theorem holder_congr (h : M.view s' = M.view s) : M.holder s' = M.holder s := by
  funext id
  rw [holder, session?_congr h, holder]

theorem AllBut.of_eq (h : M.view s' = M.view s) : M.AllBut own s s' := fun id _ => congrFun h id

theorem AllBut.trans (h : M.AllBut own s s₁) (h' : M.AllBut own s₁ s') : M.AllBut own s s' :=
  fun id hid => (h' id hid).trans (h id hid)

theorem AllBut.of_update {entry : Option (Session × τ)}
    (h : M.view s' = Function.update (M.view s) id entry) : M.AllBut (some id) s s' := by
  intro i hi
  rw [h, Function.update_of_ne fun heq => hi (congrArg some heq.symm)]

theorem AllBut.of_unboundView (h : M.view s' = SessionBinder.unboundView M s own) :
    M.AllBut own s s' := by
  cases own with
  | none => exact .of_eq h
  | some id => exact .of_update h

/-- No session stands under an id that has not been in use. -/
theorem Laws.view_eq_none {fails : StoreOp → Prop} (h : M.Laws store fails) (hs : M.valid k s)
    (hid : ¬M.known s id) : M.view s id = none := by
  cases hx : M.view s id with
  | none => rfl
  | some e => exact absurd (h.known_of_session hs (by rw [session?, hx]; rfl)) hid

end StoreModel

/-! ### Steps in which a call may fail -/

namespace SessionBinder

theorem existing_falters (h : M.Laws store fun _ => False) (hw : (M.faulty 1).valid k w)
    (ctx : RequestContext) :
    (∃ w', Yields (existing store.faulty ctx) w (.ok (ctx.sessionId.bind (M.session? w.1))) w' ∧
      (M.faulty 1).Same k w w') ∨ (M.faulty 0).Refuses k w (existing store.faulty ctx) := by
  rw [existing]
  cases ctx.sessionId with
  | none => exact .inl ⟨w, .pure _ _, .refl hw⟩
  | some id => exact (h.get_falters hw id).imp_right StoreModel.Falters.last

theorem sessionOf_falters (h : M.Laws store fun _ => False) (hw : (M.faulty 1).valid (k + 1) w)
    (ctx : RequestContext) :
    (∃ x w', Yields (sessionOf store.faulty ctx) w (ctx.withSession (some x.id), .ok x) w' ∧
      (M.faulty 1).valid k w' ∧ M.session? w'.1 x.id = some x ∧
      M.AllBut (some x.id) w.1 w'.1) ∨
    ∃ e w', Yields (sessionOf store.faulty ctx) w (ctx, .error e) w' ∧
      (M.faulty 0).valid k w' ∧ M.view w'.1 = M.view w.1 := by
  rw [sessionOf_eq]
  rcases existing_falters h hw ctx with ⟨w₁, hfound, hsame⟩ | ⟨e, w', hfailed, hsame⟩
  · cases hx : ctx.sessionId.bind (M.session? w.1) with
    | some x =>
      rw [hx] at hfound
      obtain ⟨id, hid, hx⟩ := Option.bind_eq_some_iff.1 hx
      obtain rfl : x.id = id := h.id_eq hw.1 hx
      have hctx : ctx.withSession (some x.id) = ctx := by
        rw [← hid]
        rfl
      refine .inl ⟨x, w₁, hfound.bind ?_, h.weaken_faulty hsame.valid, ?_, .of_eq hsame.view⟩
      · rw [hctx]
        exact .pure _ _
      · exact (congrFun hsame.session? x.id).trans hx
    | none =>
      -- A session is made, and no other one reads differently.
      rw [hx] at hfound
      rcases h.create_falters hsame.valid with ⟨id, w', hmade, hc⟩ | hfailed
      · refine .inl ⟨.fresh id, w', hfound.bind (hmade.bind (.pure _ _)), hc.valid, ?_, ?_⟩
        · exact (congrFun hc.session? id).trans (Function.update_self ..)
        · exact (StoreModel.AllBut.of_eq hsame.view).trans (.of_update hc.view)
      · obtain ⟨e, w', hfailed, hsame'⟩ := hfailed.last
        exact .inr ⟨e, w', hfound.bind (hfailed.bind (.pure _ _)),
          h.weaken_faulty hsame'.valid, hsame'.view.trans hsame.view⟩
  · exact .inr ⟨e, w', hfailed.bind (.pure _ _), h.weaken_faulty hsame.valid, hsame.view⟩

/-- The principal is bound, or the one failure was met and nothing is left but a session that may
be new. -/
theorem bind_falters (h : M.Laws store fun _ => False) (hw : (M.faulty 1).valid (k + 1) w)
    (ctx : RequestContext) (p : Principal) :
    (∃ id w', Yields ((perSession store.faulty).bind ctx p) w
        ((ctx.withSession (some id)).bindPrincipal p, .ok ()) w' ∧ (M.faulty 1).valid k w' ∧
      M.session? w'.1 id = some ⟨id, some p⟩ ∧ M.AllBut (some id) w.1 w'.1) ∨
    ∃ ctx' e w', Yields ((perSession store.faulty).bind ctx p) w (ctx', .error e) w' ∧
      (M.faulty 0).valid k w' ∧ M.AllBut ctx'.sessionId w.1 w'.1 := by
  rcases sessionOf_falters h hw ctx with ⟨x, w₁, hfound, hvalid, hx, hothers⟩ |
    ⟨e, w', hfailed, hvalid, hview⟩
  · rcases h.save_falters (x := { x with principal := some p }) hvalid
        (Option.isSome_of_eq_some hx) with ⟨w', hsaved, hwrites⟩ | hfailed
    · refine .inl ⟨x.id, w', hfound.bind (hsaved.bind (.pure _ _)), hwrites.valid, ?_,
        hothers.trans (.of_update hwrites.view)⟩
      have hview : M.view w'.1 x.id = some (⟨x.id, some p⟩, M.stamp) :=
        (congrFun hwrites.view x.id).trans (Function.update_self ..)
      rw [StoreModel.session?, hview]
      rfl
    · obtain ⟨e, w', hfailed, hsame⟩ := hfailed.last
      exact .inr ⟨_, e, w', hfound.bind (hfailed.bind (.pure _ _)), hsame.valid,
        hothers.trans (.of_eq hsame.view)⟩
  · exact .inr ⟨ctx, e, w', hfailed.bind (.pure _ _), hvalid, .of_eq hview⟩

/-- The principal is taken from its session, or it stays there. -/
theorem unbind_falters (h : M.Laws store fun _ => False) (hw : (M.faulty 1).valid k w)
    (hid : ctx.sessionId = some id) (hx : M.session? w.1 id = some ⟨id, some p⟩) :
    ∃ r w', Yields ((perSession store.faulty).unbind ctx) w (ctx.unbindPrincipal, r) w' ∧
      (M.faulty 1).valid k w' ∧ M.AllBut (some id) w.1 w'.1 ∧
      (M.holder w'.1 id = none ∨ (∃ e, r = .error e) ∧ M.holder w'.1 id = some p) := by
  have hstays {w' : σ × Schedule} (hview : M.view w'.1 = M.view w.1) :
      M.holder w'.1 id = some p := by
    rw [StoreModel.holder, StoreModel.session?_congr hview, hx, Option.bind_some]
  simp only [unbind, RequestContext.unbindPrincipal, hid]
  rcases h.get_falters hw id with ⟨w₁, hfound, hsame⟩ | hfailed
  · have hx₁ : (M.faulty 1).session? w id = some ⟨id, some p⟩ := hx
    rw [hx₁] at hfound
    rcases h.save_falters (x := ⟨id, none⟩) hsame.valid
        (by rw [hsame.session?, hx₁]; rfl) with ⟨w', hsaved, hwrites⟩ | hfailed
    · refine ⟨.ok ctx.principal, w', hfound.bind (hsaved.bind (.pure _ _)), hwrites.valid,
        (StoreModel.AllBut.of_eq hsame.view).trans (.of_update hwrites.view), .inl ?_⟩
      have hview : M.view w'.1 id = some (⟨id, none⟩, M.stamp) :=
        (congrFun hwrites.view id).trans (Function.update_self ..)
      rw [StoreModel.holder_of_view hview]
      rfl
    · obtain ⟨e, w', hfailed, hsame'⟩ := hfailed.last
      have hview : M.view w'.1 = M.view w.1 := hsame'.view.trans hsame.view
      exact ⟨.error e, w', hfound.bind (hfailed.bind (.pure _ _)),
        StoreModel.faulty_mono (Nat.zero_le 1) hsame'.valid, .of_eq hview,
        .inr ⟨⟨e, rfl⟩, hstays hview⟩⟩
  · obtain ⟨e, w', hfailed, hsame⟩ := hfailed.last
    exact ⟨.error e, w', hfailed.bind (.pure _ _),
      StoreModel.faulty_mono (Nat.zero_le 1) hsame.valid, .of_eq hsame.view,
      .inr ⟨⟨e, rfl⟩, hstays hsame.view⟩⟩

end SessionBinder

namespace SessionStrategy

/-- A session that was just made is removed again, and nothing is left of it. -/
theorem remove_yields (h : M.Laws store fun _ => False) (hw : (M.faulty 0).valid k w)
    {s : σ} {entry : Option (Session × τ)}
    (hview : M.view w.1 = Function.update (M.view s) id entry) (hnone : M.view s id = none) :
    ∃ w', Yields (store.faulty.invalidate id) w (.ok ()) w' ∧ (M.faulty 0).valid k w' ∧
      M.view w'.1 = M.view s := by
  obtain ⟨w', hremoved, hwrites⟩ := h.faulty.invalidate_yields not_false hw id
  refine ⟨w', hremoved, hwrites.valid, ?_⟩
  have hupdate : M.view w'.1 = Function.update (M.view w.1) id none := hwrites.view
  rw [hupdate, hview, Function.update_idem, ← hnone, Function.update_eq_self]

/-- What a new session gets is written to it alone, whether or not the old one can be removed. -/
theorem moveSession_falters (h : M.Laws store fun _ => False) (hw : (M.faulty 1).valid k w)
    (old : Session) {s : σ}
    (hview : M.view w.1 = Function.update (M.view s) id (some (.fresh id, M.stamp))) :
    (∃ w', Yields (moveSession store.faulty old (.fresh id)) w (.ok ()) w' ∧
      (M.faulty 1).valid k w') ∨
    ∃ e entry w', Yields (moveSession store.faulty old (.fresh id)) w (.error e) w' ∧
      (M.faulty 0).valid k w' ∧ M.view w'.1 = Function.update (M.view s) id entry := by
  -- The old session is removed last.
  have hlast {w₁ : σ × Schedule} {entry : Option (Session × τ)} (hw₁ : (M.faulty 1).valid k w₁)
      (hview : M.view w₁.1 = Function.update (M.view s) id entry) :
      (∃ w', Yields (store.faulty.invalidate old.id) w₁ (.ok ()) w' ∧ (M.faulty 1).valid k w') ∨
      ∃ e w', Yields (store.faulty.invalidate old.id) w₁ (.error e) w' ∧
        (M.faulty 0).valid k w' ∧ M.view w'.1 = Function.update (M.view s) id entry := by
    rcases h.invalidate_falters hw₁ old.id with ⟨w', hremoved, hwrites⟩ | hfailed
    · exact .inl ⟨w', hremoved, hwrites.valid⟩
    · obtain ⟨e, w', hfailed, hsame⟩ := hfailed.last
      exact .inr ⟨e, w', hfailed, hsame.valid, hsame.view.trans hview⟩
  rw [moveSession]
  cases old.principal with
  | none =>
    rcases hlast hw hview with hdone | ⟨e, w', hfailed, hvalid, hview⟩
    · exact .inl hdone
    · exact .inr ⟨e, _, w', hfailed, hvalid, hview⟩
  | some p =>
    have hnew : (M.faulty 1).view w id = some (.fresh id, M.stamp) :=
      (congrFun hview id).trans (Function.update_self ..)
    have hx : ((M.faulty 1).session? w id).isSome := by
      rw [StoreModel.session?, hnew]
      rfl
    rcases h.save_falters (x := ⟨id, some p⟩) hw hx with ⟨w₁, hsaved, hwrites⟩ | hfailed
    · have hview₁ : M.view w₁.1 = Function.update (M.view s) id (some (⟨id, some p⟩, M.stamp)) := by
        have hupdate : M.view w₁.1 = Function.update (M.view w.1) id _ := hwrites.view
        rw [hupdate, hview, Function.update_idem]
      rcases hlast hwrites.valid hview₁ with ⟨w', hremoved, hvalid⟩ |
        ⟨e, w', hfailed, hvalid, hview⟩
      · exact .inl ⟨w', hsaved.bind hremoved, hvalid⟩
      · exact .inr ⟨e, _, w', hsaved.bind hfailed, hvalid, hview⟩
    · obtain ⟨e, w', hfailed, hsame⟩ := hfailed.last
      exact .inr ⟨e, _, w', hfailed.bind (.pure _ _), hsame.valid, hsame.view.trans hview⟩

/-- The request is moved, or the one failure was met and everything reads as before: what was
copied is removed again. -/
theorem rotate_falters (h : M.Laws store fun _ => False) (hw : (M.faulty 1).valid (k + 1) w)
    {old : Session} (hid : ctx.sessionId = some id) (hold : M.session? w.1 id = some old) :
    (∃ ctx' w', Yields (rotate store.faulty ctx) w (ctx', .ok ()) w' ∧ (M.faulty 1).valid k w') ∨
    ∃ e w', Yields (rotate store.faulty ctx) w (ctx, .error e) w' ∧ (M.faulty 0).valid k w' ∧
      M.view w'.1 = M.view w.1 := by
  simp only [rotate, hid]
  rcases h.get_falters hw id with ⟨w₁, hfound, hsame⟩ | hfailed
  · have hold₁ : (M.faulty 1).session? w id = some old := hold
    rw [hold₁] at hfound
    rcases h.create_falters hsame.valid with ⟨new, w₂, hmade, hc⟩ | hfailed
    · have hnone : M.view w₁.1 new = none := h.view_eq_none hsame.valid.1 hc.fresh
      rcases moveSession_falters h hc.valid old hc.view with ⟨w', hmoved, hvalid⟩ |
        ⟨e, entry, w₃, hfailed, hvalid, hview⟩
      · exact .inl ⟨_, w', hfound.bind (hmade.bind (hmoved.bind (.pure _ _))), hvalid⟩
      · -- The failure is spent, so what was copied can be removed again.
        obtain ⟨w', hremoved, hvalid', hview'⟩ := remove_yields h hvalid hview hnone
        exact .inr ⟨e, w',
          hfound.bind (hmade.bind (hfailed.bind (hremoved.bind (.pure _ _)))), hvalid',
          hview'.trans hsame.view⟩
    · obtain ⟨e, w', hfailed, hsame'⟩ := hfailed.last
      exact .inr ⟨e, w', hfound.bind (hfailed.bind (.pure _ _)), h.weaken_faulty hsame'.valid,
        hsame'.view.trans hsame.view⟩
  · obtain ⟨e, w', hfailed, hsame⟩ := hfailed.last
    exact .inr ⟨e, w', hfailed.bind (.pure _ _), h.weaken_faulty hsame.valid, hsame.view⟩

end SessionStrategy

/-! ### A login whose credential was verified -/

namespace Authentication

variable {a : Authentication (StateT (σ × Schedule) (Except ε))}

/-- The strategy says no although no call has failed, with the principal in the session. -/
structure TurnedDown (M : StoreModel σ τ) (a : Authentication (StateT (σ × Schedule) (Except ε)))
    (ctx : RequestContext) (p : Principal) (w : σ × Schedule) (ctx' : RequestContext)
    (id : SessionId) (w' : σ × Schedule) : Prop where
  aside : a.strategy.Aside (M.faulty 1)
  course : ∃ w₁ no, Yields (a.binder.bind ctx p) w (ctx', .ok ()) w₁ ∧
    Yields (a.strategy.onAuthentication ctx' p) w₁ (ctx', .error no) w'
  sessionId : ctx'.sessionId = some id
  session : M.session? w'.1 id = some ⟨id, some p⟩
  others : M.AllBut (some id) w.1 w'.1

/-- The principal was turned down, then the store did not let go of it, and it is still in the
session of the request. -/
structure Exposed (M : StoreModel σ τ) (a : Authentication (StateT (σ × Schedule) (Except ε)))
    (ctx : RequestContext) (p : Principal) (w : σ × Schedule) (own : Option SessionId)
    (w' : σ × Schedule) : Prop where
  course : ∃ ctx₁ id w₁ ctx₂ e w₂, TurnedDown M a ctx p w ctx₁ id w₁ ∧
    Yields (a.binder.unbind ctx₁) w₁ (ctx₂, .error e) w₂
  holder : own.bind (M.holder w'.1) = some p

/-- What is left of a login that failed: nobody is bound to the request, all sessions but its own
read as before, and nobody is in its own, unless the principal is exposed. -/
structure TakesBack (M : StoreModel σ τ) (a : Authentication (StateT (σ × Schedule) (Except ε)))
    (ctx : RequestContext) (p : Principal) (w : σ × Schedule) (ctx' : RequestContext)
    (w' : σ × Schedule) : Prop where
  nobody : ctx'.principal = none
  others : M.AllBut ctx'.sessionId w.1 w'.1
  session : ctx'.sessionId.bind (M.holder w'.1) = none ∨ Exposed M a ctx p w ctx'.sessionId w'

theorem TakesBack.same {ctx₁ ctx' : RequestContext} {w₀ w₁ : σ × Schedule}
    (h : TakesBack M a ctx p w₀ ctx₁ w₁) (hview : M.view w'.1 = M.view w₁.1)
    (hctx : ctx₁.SameLogin ctx') : TakesBack M a ctx p w₀ ctx' w' where
  nobody := hctx.principal.trans h.nobody
  others := by
    rw [hctx.sessionId]
    exact h.others.trans (.of_eq hview)
  session := by
    have hholder := StoreModel.holder_congr hview
    rw [hctx.sessionId, hholder]
    refine h.session.imp_right fun hexposed => ⟨hexposed.course, ?_⟩
    rw [hholder]
    exact hexposed.holder

/-- Binding a principal and asking the strategy: both agree, or the one failure was met, or the
principal is turned down. -/
theorem bind_falters (h : M.Laws store fun _ => False) (hw : (M.faulty 1).valid (k + 2) w)
    (hbinder : a.binder = .perSession store.faulty)
    (hstrategy : a.strategy = .changeId store.faulty ∨ a.strategy.Aside (M.faulty 1))
    (ctx : RequestContext) (p : Principal) :
    (∃ ctx' w', Yields (a.bind ctx p) w (ctx', .ok ()) w' ∧ (M.faulty 1).valid k w') ∨
    (∃ ctx' f w', Yields (a.bind ctx p) w (ctx', .error f) w' ∧ (M.faulty 0).valid k w' ∧
      M.AllBut ctx'.sessionId w.1 w'.1) ∨
    ∃ ctx' f id w', Yields (a.bind ctx p) w (ctx', .error f) w' ∧ (M.faulty 1).valid k w' ∧
      TurnedDown M a ctx p w ctx' id w' := by
  simp only [Authentication.bind, hbinder]
  rcases SessionBinder.bind_falters (k := k + 1) h hw ctx p with
    ⟨id, w₁, hbind, hvalid, hx, hothers⟩ | ⟨ctx', e, w', hfailed, hvalid, hothers⟩
  · rcases hstrategy with hmoves | haside
    · have hid : ((ctx.withSession (some id)).bindPrincipal p).sessionId = some id := rfl
      rw [hmoves]
      rcases SessionStrategy.rotate_falters h hvalid hid hx with ⟨ctx', w', hmoved, hvalid'⟩ |
        ⟨e, w', hfailed, hvalid', hview⟩
      · exact .inl ⟨ctx', w',
          hbind.bind (Yields.bind (hmoved.bind (.pure _ _)) (.pure _ _)), hvalid'⟩
      · exact .inr (.inl ⟨_, _, w',
          hbind.bind (Yields.bind (hfailed.bind (.pure _ _)) (.pure _ _)), hvalid',
          hothers.trans (.of_eq hview)⟩)
    · obtain ⟨r, w', hasked, hsame⟩ :=
        haside ((ctx.withSession (some id)).bindPrincipal p) p hvalid
      have hvalid' : (M.faulty 1).valid k w' := h.weaken_faulty hsame.valid
      cases r with
      | ok u => exact .inl ⟨_, w', hbind.bind (hasked.bind (.pure _ _)), hvalid'⟩
      | error no =>
        refine .inr (.inr ⟨_, _, id, w', hbind.bind (hasked.bind (.pure _ _)), hvalid', haside,
          ⟨w₁, no, ?_, hasked⟩, rfl, (congrFun hsame.session? id).trans hx,
          hothers.trans (.of_eq hsame.view)⟩)
        rw [hbinder]
        exact hbind
  · exact .inr (.inl ⟨ctx', _, w', hfailed.bind (.pure _ _), h.weaken_faulty hvalid, hothers⟩)

/-- After the rollback only remembering is left, which changes none of it. -/
theorem complete_of_unbind (hrm : a.rememberMe.Reserved (M.faulty 1))
    {ctx₁ ctx₂ : RequestContext} {f : LoginFailure} {r : Except StoreError (Option Principal)}
    {w₁ w₂ : σ × Schedule} (hbind : Yields (a.bind ctx p) w (ctx₁, .error f) w₁)
    (hunbind : Yields (a.binder.unbind ctx₁) w₁ (ctx₂, r) w₂)
    (hvalid : (M.faulty 1).valid k w₂) (hback : TakesBack M a ctx p w ctx₂ w₂) :
    ∃ ctx' r w', Yields (a.complete ctx p) w (ctx', r) w' ∧
      (r = .ok p ∨ (∃ f, r = .error f) ∧ TakesBack M a ctx p w ctx' w') := by
  obtain ⟨ctx', w', hfail, hsame, hctx⟩ := fail_reserved hrm hvalid ctx₂ f
  exact ⟨ctx', .error f, w', hbind.bind (hunbind.bind hfail),
    .inr ⟨⟨f, rfl⟩, hback.same hsame.view hctx⟩⟩

/-- A login whose credential was verified succeeds or takes back what it has done. -/
theorem complete_takesBack (h : M.Laws store fun _ => False)
    (hw : (M.faulty 1).valid (k + 2) w) (hbinder : a.binder = .perSession store.faulty)
    (hstrategy : a.strategy = .changeId store.faulty ∨ a.strategy.Aside (M.faulty 1))
    (hrm : a.rememberMe.Reserved (M.faulty 1)) (ctx : RequestContext) (p : Principal) :
    ∃ ctx' r w', Yields (a.complete ctx p) w (ctx', r) w' ∧
      (r = .ok p ∨ (∃ f, r = .error f) ∧ TakesBack M a ctx p w ctx' w') := by
  rcases bind_falters h hw hbinder hstrategy ctx p with ⟨ctx₁, w₁, hbind, hvalid⟩ |
    ⟨ctx₁, f, w₁, hbind, hvalid, hothers⟩ | ⟨ctx₁, f, id, w₁, hbind, hvalid, hdown⟩
  · obtain ⟨ctx', w', hsuccess, -, -⟩ := hrm.loginSuccess ctx₁ p hvalid
    exact ⟨ctx', .ok p, w', hbind.bind (hsuccess.bind (.pure _ _)), .inl rfl⟩
  · -- The failure is spent, so the rollback meets none.
    obtain ⟨w₂, hunbind, hvalid₂, -, hview⟩ :=
      SessionBinder.unbind_yields h.faulty not_false not_false hvalid ctx₁
    rw [← hbinder] at hunbind
    exact complete_of_unbind hrm hbind hunbind (StoreModel.faulty_mono (Nat.zero_le 1) hvalid₂)
      ⟨rfl, hothers.trans (.of_unboundView hview),
        .inl (SessionBinder.holder_unboundView (M := M.faulty 0) hview)⟩
  · -- The failure may still come, and then the principal stays.
    obtain ⟨r, w₂, hunbind, hvalid₂, hothers, hsession⟩ :=
      SessionBinder.unbind_falters h hvalid hdown.sessionId hdown.session
    rw [← hbinder] at hunbind
    have hid : ctx₁.unbindPrincipal.sessionId = some id := hdown.sessionId
    refine complete_of_unbind hrm hbind hunbind hvalid₂ ⟨rfl, ?_, ?_⟩
    · rw [hid]
      exact hdown.others.trans hothers
    · rw [hid, Option.bind_some]
      rcases hsession with hnobody | ⟨⟨e, rfl⟩, hholder⟩
      · exact .inl hnobody
      · exact .inr ⟨⟨ctx₁, id, w₁, _, e, w₂, hdown, hunbind⟩, hholder⟩

theorem fail_makes {ctx' : RequestContext} (h : Yields (a.rememberMe.loginFail ctx) w ctx' w')
    (f : LoginFailure) :
    Makes (a.fail ctx f) (a.recorded.fail ctx f) w [.loginFail ctx ctx'] (ctx', .error f) w' :=
  (Makes.record h).bind_pure rfl rfl

end Authentication

/-! ### A whole login -/

namespace LoginCommand

variable {c : LoginCommand (StateT (σ × Schedule) (Except ε))}
  {handlers : List (LogoutHandler (StateT (σ × Schedule) (Except ε)))}

/-- A login that was turned down before anything was done: everything is as it was, and these are
all the calls that were made. -/
structure Untouched (M : StoreModel σ τ) (c : LoginCommand (StateT (σ × Schedule) (Except ε)))
    (username password : String) (ctx : RequestContext) (w : σ × Schedule) (calls : List LoginCall)
    (ctx' : RequestContext) (r : Except LoginError Principal) (w' : σ × Schedule) : Prop where
  makes : Makes (c.login ctx username password) (c.recorded.login ctx username password) w calls
    (ctx', r) w'
  sameLogin : ctx.SameLogin ctx'
  view : M.view w'.1 = M.view w.1

/-- The ways in which a login ends of which at most one call of the store fails. -/
inductive Ending (M : StoreModel σ τ) (c : LoginCommand (StateT (σ × Schedule) (Except ε)))
    (seq : LogoutSequence (StateT (σ × Schedule) (Except ε))) (username password : String)
    (ctx : RequestContext) (w : σ × Schedule) :
    RequestContext → Except LoginError Principal → σ × Schedule → Prop where
  /-- The name is no username. -/
  | unnamed {e : UsernameError} {ctx' : RequestContext} {w' : σ × Schedule}
      (parse : Credential.parse username password = .error e)
      (untouched : Untouched M c username password ctx w [.loginFail ctx ctx'] ctx'
        (.error (.failed (.ofUsernameError e))) w') :
      Ending M c seq username password ctx w ctx' (.error (.failed (.ofUsernameError e))) w'
  /-- The verifier does not vouch for the credential. -/
  | turnedAway {credential : Credential} {e : VerificationError} {ctx' : RequestContext}
      {w₁ w' : σ × Schedule} (parse : Credential.parse username password = .ok credential)
      (verify : Yields (c.config.verifier.verify credential) w (.error e) w₁)
      (untouched : Untouched M c username password ctx w
        [.verify credential (.error e), .loginFail ctx ctx'] ctx'
        (.error (.failed (.ofVerificationError e))) w') :
      Ending M c seq username password ctx w ctx' (.error (.failed (.ofVerificationError e))) w'
  /-- The principal could not be bound, or the strategy has failed. -/
  | takenBack {credential : Credential} {identity : VerifiedIdentity} {ctx' : RequestContext}
      {w₁ w' : σ × Schedule} {f : LoginError}
      (parse : Credential.parse username password = .ok credential)
      (verify : Yields (c.config.verifier.verify credential) w (.ok identity) w₁)
      (nobody : ctx'.principal = none) (others : M.AllBut ctx'.sessionId w.1 w'.1)
      (session : ctx'.sessionId.bind (M.holder w'.1) = none ∨
        Authentication.Exposed M (c.authentication seq) ctx
          ⟨identity.name, identity.authorities⟩ w₁ ctx'.sessionId w') :
      Ending M c seq username password ctx w ctx' (.error f) w'
  /-- The principal is logged in. -/
  | admitted {credential : Credential} {identity : VerifiedIdentity} {ctx' : RequestContext}
      {w₁ w' : σ × Schedule} (parse : Credential.parse username password = .ok credential)
      (verify : Yields (c.config.verifier.verify credential) w (.ok identity) w₁) :
      Ending M c seq username password ctx w ctx' (.ok ⟨identity.name, identity.authorities⟩) w'

theorem login_makes {seq : LogoutSequence (StateT (σ × Schedule) (Except ε))}
    (hstarted : c.started = some seq) {username password : String} {calls : List LoginCall}
    {ctx' : RequestContext} {f : LoginFailure}
    (hrun : Makes ((c.authentication seq).run ctx username password)
      ((c.authentication seq).recorded.run ctx username password) w calls (ctx', .error f) w') :
    Makes (c.login ctx username password) (c.recorded.login ctx username password) w calls
      (ctx', .error (.failed f)) w' := by
  simp only [login, hstarted, recorded_started hstarted]
  exact hrun.bind_pure rfl rfl

/-- A login of which at most one call of the store fails. If the name is no username or the verifier
does not vouch for the credential, everything is as before, and neither the store nor the strategy
was asked. If it fails after that, nobody is bound to the request, all sessions but its own read as
before, and nobody is in its own; only a strategy that says no by itself and a store that fails
during the rollback leave the principal there. -/
theorem login_takesBack (h : M.Laws store fun _ => False)
    (hstarted : c.started = some ⟨handlers, .perSession store.faulty⟩)
    (hstrategy : c.config.strategy = .changeId store.faulty ∨
      c.config.strategy.Aside (M.faulty 1))
    (hverifier : c.config.verifier.Apart (M.faulty 1))
    (hrm : c.config.rememberMe.Reserved (M.faulty 1)) (hw : (M.faulty 1).valid (k + 2) w)
    (ctx : RequestContext) (username password : String) :
    ∃ ctx' r w', Yields (c.login ctx username password) w (ctx', r) w' ∧
      Ending M c ⟨handlers, .perSession store.faulty⟩ username password ctx w ctx' r w' := by
  cases hparse : Credential.parse username password with
  | error e =>
    obtain ⟨ctx', w', hfail, hsame, hctx⟩ := hrm.loginFail ctx hw
    have hmakes : Makes (c.login ctx username password) (c.recorded.login ctx username password) w
        [.loginFail ctx ctx'] (ctx', .error (.failed (.ofUsernameError e))) w' := by
      refine login_makes hstarted ?_
      simp only [Authentication.run, hparse]
      exact Authentication.fail_makes hfail _
    exact ⟨ctx', _, w', hmakes.yields, .unnamed hparse ⟨hmakes, hctx, hsame.view⟩⟩
  | ok credential =>
    obtain ⟨answer, w₁, hverify, hsame₁⟩ := hverifier credential hw
    cases answer with
    | error e =>
      obtain ⟨ctx', w', hfail, hsame, hctx⟩ := hrm.loginFail ctx hsame₁.valid
      have hmakes : Makes (c.login ctx username password)
          (c.recorded.login ctx username password) w
          [.verify credential (.error e), .loginFail ctx ctx']
          (ctx', .error (.failed (.ofVerificationError e))) w' := by
        refine login_makes hstarted ?_
        simp only [Authentication.run, hparse]
        exact (Makes.record hverify).bind (Authentication.fail_makes hfail _)
      exact ⟨ctx', _, w', hmakes.yields,
        .turnedAway hparse hverify ⟨hmakes, hctx, hsame.view.trans hsame₁.view⟩⟩
    | ok identity =>
      obtain ⟨ctx', r, w', hcomplete, hend⟩ := Authentication.complete_takesBack
        (a := c.authentication ⟨handlers, .perSession store.faulty⟩) h hsame₁.valid rfl hstrategy
        hrm ctx (.ofIdentity identity)
      have hlogin : Yields (c.login ctx username password) w (ctx', r.mapError .failed) w' := by
        simp only [login, hstarted, Authentication.run, hparse]
        exact (hverify.bind hcomplete).bind (.pure _ _)
      refine ⟨ctx', _, w', hlogin, ?_⟩
      rcases hend with rfl | ⟨⟨f, rfl⟩, hback⟩
      · exact .admitted hparse hverify
      · exact .takenBack hparse hverify hback.nobody
          ((StoreModel.AllBut.of_eq hsame₁.view).trans hback.others) hback.session

/-- A store in memory with a schedule of failures. -/
def flakyStore : SessionStore (StateT (World Unit × Schedule) (Except ClockOverflow)) :=
  (World.sessionStore World.counting).faulty

/-- A command before that store whose verifier vouches for everybody. -/
def flaky (strategy : SessionStrategy (StateT (World Unit × Schedule) (Except ClockOverflow))) :
    LoginCommand (StateT (World Unit × Schedule) (Except ClockOverflow)) where
  config :=
    { verifier := ⟨fun credential => return .ok ⟨credential.username.text, .empty⟩⟩
      store := some flakyStore
      strategy := strategy
      rememberMe := .null
      handlers := some []
      mode := .perSession
      invalidateSession := true }
  started := some ⟨[], .perSession flakyStore⟩

/-- Bob logs in with the session of alice. The old session cannot be removed when the request is
moved, so the copy goes, the request stays where it was, and nobody is left in its session. -/
theorem login_takesBack_flaky :
    ∃ ctx f w, Yields ((flaky (.changeId flakyStore)).login returning "bob" "1234")
        (World.holding World.alice, [none, none, none, none, none, some (.unexpected "down")])
        (ctx, .error f) w ∧
      ctx.sessionId = World.counting 0 ∧ ctx.principal = none ∧
      (World.model World.counting 8 60 0 ()).AllBut (some (World.counting 0))
        (World.holding World.alice) w.1 ∧
      (World.model World.counting 8 60 0 ()).holder w.1 (World.counting 0) = none := by
  have hlaws : (World.model World.counting 8 60 0 ()).Laws
      (World.sessionStore World.counting) fun _ => False :=
    World.laws (World.injOn_counting (by omega)) (by decide) (by decide) _
  have hw : ((World.model World.counting 8 60 0 ()).faulty 1).valid 7
      (World.holding World.alice, [none, none, none, none, none, some (.unexpected "down")]) :=
    ⟨⟨World.sound_holding World.alice, rfl, rfl, rfl, Nat.le_refl 8⟩, by decide⟩
  obtain ⟨ctx, r, w, hrun, hend⟩ := login_takesBack (c := flaky (.changeId flakyStore)) hlaws rfl
    (.inl rfl) (fun _ hs => ⟨_, _, .pure _ _, .refl hs⟩) RememberMe.reserved_null hw returning
    "bob" "1234"
  have hyields : Yields ((flaky (.changeId flakyStore)).login returning "bob" "1234")
      (World.holding World.alice, [none, none, none, none, none, some (.unexpected "down")])
      (returning, .error (.failed ⟨.other, "Session store error: Unexpected error: down"⟩))
      (⟨⟨60, [(World.counting 0, ⟨.fresh (World.counting 0), 60000⟩)]⟩, 0, 2, ()⟩, []) := by
    rfl
  cases hend with
  | unnamed parse =>
    have hbob : ∃ credential, Credential.parse "bob" "1234" = .ok credential := ⟨_, rfl⟩
    simp [parse] at hbob
  | turnedAway parse verify => exact absurd (verify.eq (.pure _ _)).1 (by simp)
  | takenBack parse verify hnobody hothers hsession =>
    obtain ⟨hstep, rfl⟩ := hrun.eq hyields
    obtain ⟨rfl, -⟩ := Prod.mk.inj hstep
    exact ⟨_, _, _, hrun, rfl, hnobody, hothers,
      hsession.resolve_right fun hexposed => absurd hexposed.holder (Option.some_ne_none _).symm⟩
  | admitted parse verify => exact absurd (Prod.mk.inj (hrun.eq hyields).1).2 (by simp)

/-- Bob is turned down by the strategy, and then the store fails when the rollback asks it for his
session. He stays in it. -/
theorem flaky_exposes :
    ∃ ctx f w, Yields ((flaky (.refusing "closed")).login {} "bob" "1234")
        (World.holding World.alice, [none, none, some (.unexpected "down")]) (ctx, .error f) w ∧
      ctx.principal = none ∧ ctx.sessionId = World.counting 1 ∧
      (World.model World.counting 8 60 0 ()).holder w.1 (World.counting 1) =
        some ⟨"bob", .empty⟩ :=
  ⟨{ sessionId := World.counting 1 }, _, _, rfl, rfl, rfl, rfl⟩

end LoginCommand

end WebLogin
