/-
What the steps of a login do to the sessions.

Each operation of the session binder, and the session strategy that gives a request a new id, is
summed up by one lemma over a store that keeps the laws of a map: which context it leaves, and
which entries it has written.

* `restore_yields` — a request takes over the principal of its session;
* `bind_yields` — a principal is written to the session of the request, or to a new one;
* `unbind_yields` — the principal is taken from the request and from its session;
* `rotate_yields` — the session of the request moves to a new id;
* `SessionBinder.eq_of_bind`, `SessionStrategy.eq_withSession_of_rotate` — what changes in a
  request, whatever the store does.
-/
import WebLogin.Proofs.Store.Model
import WebLogin.Session.Strategy

namespace WebLogin

variable {σ τ ε : Type} {M : StoreModel σ τ} {store : SessionStore (StateT σ (Except ε))}
  {fails : StoreOp → Prop} {k : Nat} {s : σ}

namespace StoreModel

theorem Same.refl (hs : M.valid k s) : M.Same k s s := ⟨hs, rfl, rfl⟩

theorem Same.session? {s' : σ} (h : M.Same k s s') : M.session? s' = M.session? s := by
  funext id
  rw [StoreModel.session?, h.view, StoreModel.session?]

theorem Creates.session? {s' : σ} {id : SessionId} (h : M.Creates k s id s') :
    M.session? s' = Function.update (M.session? s) id (some (.fresh id)) := by
  funext id'
  rw [StoreModel.session?, h.view, Function.update_apply, Function.update_apply]
  split <;> rfl

theorem Same.holder {s' : σ} (h : M.Same k s s') : M.holder s' = M.holder s := by
  funext id
  rw [StoreModel.holder, h.session?, StoreModel.holder]

end StoreModel

namespace SessionBinder

/-- The context of a request after it took over the principal of its session. -/
def restored (sessions : SessionId → Option Session) (ctx : RequestContext) : RequestContext :=
  match ctx.sessionId with
  | none => ctx
  | some id =>
    match sessions id with
    | none => ctx.withSession none
    | some x => x.principal.elim ctx ctx.bindPrincipal

/-- A request that brings no principal gets that of its session, and loses an id that the store
does not know. -/
theorem restored_eq {ctx : RequestContext} (hp : ctx.principal = none) :
    restored (M.session? s) ctx =
      { ctx with
        sessionId := ctx.sessionId.filter fun id => (M.session? s id).isSome
        principal := ctx.sessionId.bind (M.holder s) } := by
  obtain ⟨old, cookies, pending, principal⟩ := ctx
  obtain rfl : principal = none := hp
  cases old with
  | none => rfl
  | some id =>
    simp only [restored, StoreModel.holder, Option.bind_some, Option.filter_some]
    cases M.session? s id with
    | none => rfl
    | some x =>
      obtain ⟨xid, p⟩ := x
      cases p <;> rfl

theorem restore_yields (h : M.Laws store fails) (hget : ¬fails .get) (hs : M.valid k s)
    (ctx : RequestContext) :
    ∃ s', Yields ((perSession store).restore ctx) s (restored (M.session? s) ctx, .ok ()) s' ∧
      M.Same k s s' := by
  cases hid : ctx.sessionId with
  | none => exact ⟨s, by simp only [restore, restored, hid]; exact Yields.pure _ _, .refl hs⟩
  | some id =>
    obtain ⟨s', hrun, hsame⟩ := h.get_yields hget hs id
    refine ⟨s', ?_, hsame⟩
    simp only [restore, restored, hid]
    refine hrun.bind ?_
    cases M.session? s id with
    | none => exact Yields.pure _ _
    | some x =>
      dsimp only
      cases x.principal with
      | none => exact Yields.pure _ _
      | some p => exact Yields.pure _ _

/-- What binding a principal to the session of a request has written. The session is that of the
request, or a new one if the request has none that the store knows. -/
structure Bound (M : StoreModel σ τ) (k : Nat) (s : σ) (old : Option SessionId) (p : Principal)
    (id : SessionId) (s' : σ) : Prop where
  valid : M.valid k s'
  origin : old = some id ∨ ¬M.known s id ∧ ∀ i, old = some i → M.session? s i = none
  view : M.view s' = Function.update (M.view s) id (some (⟨id, some p⟩, M.stamp))
  known : M.known s' id
  known_mono : ∀ i, M.known s i → M.known s' i

/-- The session that a request works with from now on: its own, or a new one if it has none that
the store knows. -/
structure Chosen (M : StoreModel σ τ) (k : Nat) (s : σ) (old : Option SessionId) (x : Session)
    (s' : σ) : Prop where
  valid : M.valid k s'
  origin : old = some x.id ∨ ¬M.known s x.id ∧ ∀ i, old = some i → M.session? s i = none
  session : M.session? s' x.id = some x
  view : ∀ i, i ≠ x.id → M.view s' i = M.view s i
  known_mono : ∀ i, M.known s i → M.known s' i

/-- Asks the store for the session that a request names. -/
def existing (store : SessionStore (StateT σ (Except ε))) (ctx : RequestContext) :
    StateT σ (Except ε) (Except StoreError (Option Session)) :=
  match ctx.sessionId with
  | some id => store.get id
  | none => pure (.ok none)

theorem existing_yields (h : M.Laws store fails) (hget : ¬fails .get) (hs : M.valid k s)
    (ctx : RequestContext) :
    ∃ s', Yields (existing store ctx) s (.ok (ctx.sessionId.bind (M.session? s))) s' ∧
      M.Same k s s' := by
  rw [existing]
  cases ctx.sessionId with
  | none => exact ⟨s, Yields.pure _ _, .refl hs⟩
  | some id => exact h.get_yields hget hs id

theorem sessionOf_eq (store : SessionStore (StateT σ (Except ε))) (ctx : RequestContext) :
    sessionOf store ctx = (do
      match ← existing store ctx with
      | .error e => return (ctx, .error e)
      | .ok (some session) => return (ctx, .ok session)
      | .ok none =>
        match ← store.create with
        | .error e => return (ctx, .error e)
        | .ok session => return (ctx.withSession (some session.id), .ok session)) := by
  rw [sessionOf, existing]
  cases ctx.sessionId <;> rfl

theorem sessionOf_yields (h : M.Laws store fails) (hget : ¬fails .get) (hcreate : ¬fails .create)
    (hs : M.valid (k + 1) s) (ctx : RequestContext) :
    ∃ x s', Yields (sessionOf store ctx) s (ctx.withSession (some x.id), .ok x) s' ∧
      Chosen M k s ctx.sessionId x s' := by
  obtain ⟨s₁, hrun₁, hsame⟩ := existing_yields h hget hs ctx
  rw [sessionOf_eq]
  cases hx : ctx.sessionId.bind (M.session? s) with
  | none =>
    -- Nothing was found, so a session is made, and the request gets its id.
    rw [hx] at hrun₁
    obtain ⟨id, s', hrun, hc⟩ := h.create_yields hcreate hsame.valid
    refine ⟨.fresh id, s', hrun₁.bind (hrun.bind (Yields.pure _ _)), hc.valid, .inr ⟨?_, ?_⟩, ?_,
      ?_, ?_⟩
    · rw [← hsame.known]
      exact hc.fresh
    · intro i hi
      rwa [hi] at hx
    · rw [hc.session?]
      exact Function.update_self ..
    · intro i (hi : i ≠ id)
      rw [hc.view, Function.update_of_ne hi, hsame.view]
    · intro i hi
      exact (hc.known i).2 (.inr (hsame.known ▸ hi))
  | some x =>
    rw [hx] at hrun₁
    obtain ⟨id, hid, hx⟩ := Option.bind_eq_some_iff.1 hx
    obtain rfl : x.id = id := h.id_eq hs hx
    have hctx : ctx.withSession (some x.id) = ctx := by
      rw [← hid]
      rfl
    refine ⟨x, s₁, hrun₁.bind ?_, h.weaken hsame.valid, .inl hid, by rw [hsame.session?, hx],
      fun i _ => by rw [hsame.view], fun i hi => hsame.known ▸ hi⟩
    rw [hctx]
    exact Yields.pure _ _

theorem bind_yields (h : M.Laws store fails) (hget : ¬fails .get) (hcreate : ¬fails .create)
    (hsave : ¬fails .save) (hs : M.valid (k + 1) s) (ctx : RequestContext) (p : Principal) :
    ∃ id s', Yields ((perSession store).bind ctx p) s
        ((ctx.withSession (some id)).bindPrincipal p, .ok ()) s' ∧
      Bound M k s ctx.sessionId p id s' := by
  -- The session is there by now, so saving it writes it.
  obtain ⟨x, s₁, hrun₁, hx⟩ := sessionOf_yields h hget hcreate hs ctx
  obtain ⟨s', hrun, hw⟩ := h.save_yields hsave hx.valid (x := { x with principal := some p })
    (by rw [hx.session]; rfl)
  refine ⟨x.id, s', hrun₁.bind (hrun.bind (Yields.pure _ _)), hw.valid, hx.origin, ?_, ?_, ?_⟩
  · rw [hw.view]
    funext i
    by_cases hi : i = x.id
    · subst hi
      rw [Function.update_self, Function.update_self]
    · rw [Function.update_of_ne hi, Function.update_of_ne hi, hx.view i hi]
  · rw [hw.known]
    exact h.known_of_session hx.valid hx.session
  · intro i hi
    rw [hw.known]
    exact hx.known_mono i hi

/-- The entry of a session that somebody is logged in with, without the principal. -/
def unboundEntry (M : StoreModel σ τ) (entry : Option (Session × τ)) : Option (Session × τ) :=
  entry.map fun e => if e.1.principal.isSome then ({ e.1 with principal := none }, M.stamp) else e

/-- The entries after a principal was taken from the session of a request. -/
def unboundView (M : StoreModel σ τ) (s : σ) : Option SessionId → SessionId → Option (Session × τ)
  | none => M.view s
  | some id => Function.update (M.view s) id (unboundEntry M (M.view s id))

theorem unbind_yields (h : M.Laws store fails) (hget : ¬fails .get) (hsave : ¬fails .save)
    (hs : M.valid k s) (ctx : RequestContext) :
    ∃ s', Yields ((perSession store).unbind ctx) s (ctx.unbindPrincipal, .ok ctx.principal) s' ∧
      M.valid k s' ∧ M.known s' = M.known s ∧ M.view s' = unboundView M s ctx.sessionId := by
  cases hid : ctx.sessionId with
  | none =>
    refine ⟨s, ?_, hs, rfl, rfl⟩
    simp only [unbind, RequestContext.unbindPrincipal, hid]
    exact Yields.pure _ _
  | some id =>
    obtain ⟨s₁, hrun₁, hsame⟩ := h.get_yields hget hs id
    simp only [unbind, RequestContext.unbindPrincipal, hid]
    -- Without a session, or without anybody in it, there is nothing to write.
    have hkeep (he : unboundEntry M (M.view s id) = M.view s id) :
        M.view s₁ = unboundView M s (some id) := by
      rw [unboundView, he, Function.update_eq_self, hsame.view]
    cases hx : M.view s id with
    | none =>
      rw [StoreModel.session?, hx] at hrun₁
      exact ⟨s₁, hrun₁.bind (Yields.pure _ _), hsame.valid, hsame.known,
        hkeep (by rw [hx]; rfl)⟩
    | some e =>
      rw [StoreModel.session?, hx] at hrun₁
      have hsession : M.session? s id = some e.1 := by rw [StoreModel.session?, hx]; rfl
      by_cases hp : e.1.principal.isSome = true
      · -- Somebody is logged in with the session, so it is written back without them.
        have heid : e.1.id = id := h.id_eq hs hsession
        obtain ⟨s', hrun, hw⟩ := h.save_yields hsave hsame.valid
          (x := { e.1 with principal := none }) (by rw [hsame.session?, heid, hsession]; rfl)
        refine ⟨s', hrun₁.bind ?_, hw.valid, hw.known.trans hsame.known, ?_⟩
        · simp only [Option.map_some, hp, if_true]
          exact hrun.bind (Yields.pure _ _)
        · rw [hw.view, hsame.view, unboundView, unboundEntry, hx, Option.map_some, if_pos hp, heid]
      · refine ⟨s₁, hrun₁.bind ?_, hsame.valid, hsame.known, hkeep ?_⟩
        · simp only [Option.map_some, hp]
          exact Yields.pure _ _
        · rw [hx, unboundEntry, Option.map_some, if_neg hp]

end SessionBinder

namespace SessionStrategy

/-- What moving a request from one session to another one has written: the new session holds what
the old one held. -/
structure Rotated (M : StoreModel σ τ) (k : Nat) (s : σ) (old : Session) (id : SessionId)
    (s' : σ) : Prop where
  valid : M.valid k s'
  fresh : ¬M.known s id
  view : M.view s' = Function.update
    (Function.update (M.view s) id (some (⟨id, old.principal⟩, M.stamp))) old.id none
  known : M.known s' id
  known_mono : ∀ i, M.known s i → M.known s' i

/-- Moving to a session that was just made carries over the principal. -/
theorem moveSession_yields (h : M.Laws store fails) (hsave : ¬fails .save)
    (hinvalidate : ¬fails .invalidate) (hs : M.valid k s) (old : Session) {id : SessionId}
    (hid : M.view s id = some (.fresh id, M.stamp)) :
    ∃ s', Yields (moveSession store old (.fresh id)) s (.ok ()) s' ∧ M.valid k s' ∧
      M.known s' = M.known s ∧ M.view s' = Function.update
        (Function.update (M.view s) id (some (⟨id, old.principal⟩, M.stamp))) old.id none := by
  rw [moveSession]
  cases old.principal with
  | none =>
    -- The new session is empty already, so only the old one is removed.
    obtain ⟨s', hrun, hw⟩ := h.invalidate_yields hinvalidate hs old.id
    refine ⟨s', hrun, hw.valid, hw.known, ?_⟩
    rw [hw.view, show some ((⟨id, none⟩ : Session), M.stamp) = M.view s id from hid.symm,
      Function.update_eq_self]
  | some p =>
    obtain ⟨s₁, hrun₁, hw₁⟩ := h.save_yields hsave hs (x := ⟨id, some p⟩)
      (by rw [StoreModel.session?, hid]; rfl)
    obtain ⟨s', hrun, hw⟩ := h.invalidate_yields hinvalidate hw₁.valid old.id
    exact ⟨s', hrun₁.bind hrun, hw.valid, hw.known.trans hw₁.known, by rw [hw.view, hw₁.view]⟩

theorem rotate_yields (h : M.Laws store fails) (hget : ¬fails .get) (hcreate : ¬fails .create)
    (hsave : ¬fails .save) (hinvalidate : ¬fails .invalidate) (hs : M.valid (k + 1) s)
    {ctx : RequestContext} {id : SessionId} {old : Session} (hid : ctx.sessionId = some id)
    (hold : M.session? s id = some old) :
    ∃ new s', Yields (rotate store ctx) s (ctx.withSession (some new), .ok ()) s' ∧
      Rotated M k s old new s' := by
  obtain ⟨s₁, hrun₁, hsame⟩ := h.get_yields hget hs id
  obtain ⟨new, s₂, hrun₂, hc⟩ := h.create_yields hcreate hsame.valid
  have hnew : M.view s₂ new = some (.fresh new, M.stamp) := by
    rw [hc.view, Function.update_self]
  obtain ⟨s', hrun, hvalid, hknown, hview⟩ :=
    moveSession_yields h hsave hinvalidate hc.valid old hnew
  refine ⟨new, s', ?_, hvalid, hsame.known ▸ hc.fresh, ?_, ?_, ?_⟩
  · rw [hold] at hrun₁
    simp only [rotate, hid]
    exact hrun₁.bind (hrun₂.bind (hrun.bind (Yields.pure _ _)))
  · rw [hview, hc.view, Function.update_idem, hsame.view]
  · rw [hknown]
    exact (hc.known new).2 (.inl rfl)
  · intro i hi
    rw [hknown]
    exact (hc.known i).2 (.inr (hsame.known ▸ hi))

end SessionStrategy

/-! ### What the steps change in a request -/

section Contexts

variable {ctx ctx' : RequestContext} {s' : σ}

/-- Finding a session for a request changes at most which one it is in. -/
theorem SessionBinder.eq_withSession_of_sessionOf {r : Except StoreError Session}
    (h : Yields (sessionOf store ctx) s (ctx', r) s') : ∃ id, ctx' = ctx.withSession id := by
  rw [sessionOf_eq] at h
  obtain ⟨found, s₁, -, h⟩ := h.of_bind
  rcases found with e | _ | x
  · obtain ⟨rfl, -⟩ := Prod.mk.inj (h.eq (.pure _ _)).1
    exact ⟨ctx'.sessionId, rfl⟩
  · obtain ⟨made, s₂, -, h⟩ := h.of_bind
    cases made with
    | error e =>
      obtain ⟨rfl, -⟩ := Prod.mk.inj (h.eq (.pure _ _)).1
      exact ⟨ctx'.sessionId, rfl⟩
    | ok x =>
      obtain ⟨rfl, -⟩ := Prod.mk.inj (h.eq (.pure _ _)).1
      exact ⟨some x.id, rfl⟩
  · obtain ⟨rfl, -⟩ := Prod.mk.inj (h.eq (.pure _ _)).1
    exact ⟨ctx'.sessionId, rfl⟩

/-- Binding a principal changes the session and the principal of a request and nothing else,
whatever the store does. -/
theorem SessionBinder.eq_of_bind {b : SessionBinder (StateT σ (Except ε))} {p : Principal}
    {r : Except StoreError Unit} (h : Yields (b.bind ctx p) s (ctx', r) s') :
    ∃ id holder, ctx' = { ctx with sessionId := id, principal := holder } := by
  cases b with
  | perClient =>
    obtain ⟨rfl, -⟩ := Prod.mk.inj (h.eq (.pure _ _)).1
    exact ⟨ctx.sessionId, some p, rfl⟩
  | perSession store =>
    obtain ⟨⟨ctx₁, found⟩, s₁, hfound, h⟩ := h.of_bind
    obtain ⟨id, rfl⟩ := eq_withSession_of_sessionOf hfound
    cases found with
    | error e =>
      obtain ⟨rfl, -⟩ := Prod.mk.inj (h.eq (.pure _ _)).1
      exact ⟨id, ctx.principal, rfl⟩
    | ok x =>
      obtain ⟨saved, s₂, -, h⟩ := h.of_bind
      cases saved with
      | error e =>
        obtain ⟨rfl, -⟩ := Prod.mk.inj (h.eq (.pure _ _)).1
        exact ⟨id, ctx.principal, rfl⟩
      | ok u =>
        obtain ⟨rfl, -⟩ := Prod.mk.inj (h.eq (.pure _ _)).1
        exact ⟨id, some p, rfl⟩

/-- Moving a request gives it another session and nothing else. -/
theorem SessionStrategy.eq_withSession_of_rotate {r : Except StoreError Unit}
    (h : Yields (rotate store ctx) s (ctx', r) s') : ∃ id, ctx' = ctx.withSession id := by
  have hstays {s : σ} {r' : Except StoreError Unit}
      (h : Yields (pure (ctx, r') : StateT σ (Except ε) _) s (ctx', r) s') :
      ∃ id, ctx' = ctx.withSession id := by
    obtain ⟨rfl, -⟩ := Prod.mk.inj (h.eq (.pure _ _)).1
    exact ⟨ctx'.sessionId, rfl⟩
  rw [rotate] at h
  cases hid : ctx.sessionId with
  | none =>
    rw [hid] at h
    exact hstays h
  | some id =>
    rw [hid] at h
    obtain ⟨found, s₁, -, h⟩ := h.of_bind
    rcases found with e | _ | old
    · exact hstays h
    · exact hstays h
    obtain ⟨made, s₂, -, h⟩ := h.of_bind
    cases made with
    | error e => exact hstays h
    | ok fresh =>
      obtain ⟨moved, s₃, -, h⟩ := h.of_bind
      cases moved with
      | ok u =>
        obtain ⟨rfl, -⟩ := Prod.mk.inj (h.eq (.pure _ _)).1
        exact ⟨some fresh.id, rfl⟩
      | error e =>
        obtain ⟨removed, s₄, -, h⟩ := h.of_bind
        exact hstays h

end Contexts

end WebLogin
