/-
Moving a request to another session is done as a whole, or undone as a whole.

The store may refuse any of its calls, in any pattern, and does nothing then. Up to the look-up and
the making of the new session there is nothing to undo. Afterwards only the new session has been
written, so that discarding it restores every session; if the store refuses that as well, the new
session is left over, and nothing else.

* `SessionStrategy.Rotation` — the ways in which moving a request can end;
* `SessionStrategy.moveSession_makes` — the old session is replaced, or only the new one was
  written;
* `SessionStrategy.discard_makes` — after that, the new session is discarded or left over;
* `SessionStrategy.changeId_rotation` — the strategy ends in one of these ways.
-/
import WebLogin.Proofs.Login.Scoping
import WebLogin.Proofs.Store.Faults
import WebLogin.Proofs.Store.World

namespace WebLogin

variable {σ τ ε : Type} {M : StoreModel σ τ} {store : SessionStore (StateT σ (Except ε))}
  {fails : StoreOp → Prop} {k : Nat} {s s' : σ}

namespace SessionStrategy

/-- One session has taken the place of another: its id is new, it holds what the other one held, the
other one is gone, and all others read as before. -/
structure Replaced (M : StoreModel σ τ) (s : σ) (old : Session) (new : SessionId) (s' : σ) :
    Prop where
  gone : M.session? s' old.id = none
  fresh : ¬M.known s new
  carried : M.session? s' new = some ⟨new, old.principal⟩
  others : ∀ id, id ≠ old.id → id ≠ new → M.view s' id = M.view s id

theorem Replaced.of_view {old : Session} {new : SessionId} (hne : old.id ≠ new)
    (hfresh : ¬M.known s new)
    (hview : M.view s' = Function.update
      (Function.update (M.view s) new (some (⟨new, old.principal⟩, M.stamp))) old.id none) :
    Replaced M s old new s' where
  gone := by rw [StoreModel.session?, hview, Function.update_self, Option.map_none]
  fresh := hfresh
  carried := by
    rw [StoreModel.session?, hview, Function.update_of_ne hne.symm, Function.update_self,
      Option.map_some]
  others id hid hid' := by rw [hview, Function.update_of_ne hid, Function.update_of_ne hid']

/-- The ways in which moving a request to another session can end. -/
inductive Rotation (M : StoreModel σ τ) (ctx : RequestContext) (s : σ) (calls : List LoginCall) :
    Step StrategyError Unit → σ → Prop where
  /-- The request has no session that the store knows. -/
  | nothing {s' : σ} (unknown : ∀ id, ctx.sessionId = some id → M.session? s id = none)
      (same : M.view s' = M.view s) : Rotation M ctx s calls (ctx, .ok ()) s'
  /-- The request has another session in place of its own. -/
  | moved {old : Session} {new : SessionId} {s' : σ} (named : ctx.sessionId = some old.id)
      (there : M.session? s old.id = some old) (replaced : Replaced M s old new s') :
      Rotation M ctx s calls (ctx.withSession (some new), .ok ()) s'
  /-- A call was refused, and there is no trace of the attempt. -/
  | undone {call : LoginCall} {e : StoreError} {s' : σ} (refused : call ∈ calls)
      (error : call.error? = some e) (same : M.view s' = M.view s) :
      Rotation M ctx s calls (ctx, .error (.store e)) s'
  /-- A call was refused, and then the one that was to discard the new session was refused too. That
  session is all that is left. -/
  | stranded {call : LoginCall} {e e' : StoreError} {fresh : Session} {s' : σ}
      (refused : call ∈ calls) (error : call.error? = some e) (made : .create (.ok fresh) ∈ calls)
      (kept : .invalidate fresh.id (.error e') ∈ calls) (new : ¬M.known s fresh.id)
      (others : ∀ id, id ≠ fresh.id → M.view s' id = M.view s id) :
      Rotation M ctx s calls (ctx, .error (.store e)) s'

/-- Copying goes to the new session alone until the old one is removed, which comes last. -/
theorem moveSession_makes (h : M.Laws store fails) (hs : M.valid k s) (old : Session)
    {id : SessionId} (hid : M.view s id = some (.fresh id, M.stamp)) :
    (∃ calls s', Makes (moveSession store old (.fresh id))
        (moveSession store.recorded old (.fresh id)) s calls (.ok ()) s' ∧ M.valid k s' ∧
      M.view s' = Function.update
        (Function.update (M.view s) id (some (⟨id, old.principal⟩, M.stamp))) old.id none) ∨
    ∃ call calls e entry s', Makes (moveSession store old (.fresh id))
        (moveSession store.recorded old (.fresh id)) s calls (.error e) s' ∧ M.valid k s' ∧
      call ∈ calls ∧ call.error? = some e ∧ M.view s' = Function.update (M.view s) id entry := by
  rw [moveSession, moveSession]
  cases old.principal with
  | none =>
    -- The new session holds nobody yet, as the old one does.
    rcases h.invalidate old.id hs with ⟨s', hremoved, hwrites⟩ | ⟨-, e, s', hrefused, hsame⟩
    · refine .inl ⟨_, s', .record hremoved, hwrites.valid, ?_⟩
      rw [hwrites.view, show some ((⟨id, none⟩ : Session), M.stamp) = M.view s id from hid.symm,
        Function.update_eq_self]
    · refine .inr ⟨_, _, e, M.view s id, s', .record hrefused, hsame.valid,
        List.mem_singleton_self _, rfl, ?_⟩
      rw [hsame.view, Function.update_eq_self]
  | some p =>
    have hthere : (M.session? s (⟨id, some p⟩ : Session).id).isSome := by
      rw [StoreModel.session?, hid]
      rfl
    rcases h.save hs hthere with ⟨s₁, hsaved, hwrites⟩ | ⟨-, e, s₁, hrefused, hsame⟩
    · rcases h.invalidate old.id hwrites.valid with ⟨s', hremoved, hwrites'⟩ |
        ⟨-, e, s', hrefused, hsame⟩
      · refine .inl ⟨_, s', (Makes.record hsaved).bind (.record hremoved), hwrites'.valid, ?_⟩
        rw [hwrites'.view, hwrites.view]
      · refine .inr ⟨_, _, e, some (⟨id, some p⟩, M.stamp), s',
          (Makes.record hsaved).bind (.record hrefused), hsame.valid,
          List.mem_append_right _ (List.mem_singleton_self _), rfl, ?_⟩
        rw [hsame.view, hwrites.view]
    · refine .inr ⟨_, _, e, M.view s id, s₁, (Makes.record hrefused).bind_pure rfl rfl,
        hsame.valid, List.mem_singleton_self _, rfl, ?_⟩
      rw [hsame.view, Function.update_eq_self]

/-- If nothing but the new session was written, then discarding it restores everything, unless the
store refuses that. -/
theorem discard_makes (h : M.Laws store fails) {s₀ : σ} {id : SessionId}
    {entry : Option (Session × τ)} (hs : M.valid k s) (hnone : M.view s₀ id = none)
    (hview : M.view s = Function.update (M.view s₀) id entry) :
    ∃ r s', Makes (store.invalidate id) (store.recorded.invalidate id) s [.invalidate id r] r s' ∧
      M.valid k s' ∧ (∀ i, i ≠ id → M.view s' i = M.view s₀ i) ∧
      (M.view s' = M.view s₀ ∨ ∃ e, r = .error e) := by
  rcases h.invalidate id hs with ⟨s', hremoved, hwrites⟩ | ⟨-, e, s', hrefused, hsame⟩
  · have hrestored : M.view s' = M.view s₀ := by
      rw [hwrites.view, hview, Function.update_idem, ← hnone, Function.update_eq_self]
    exact ⟨_, s', .record hremoved, hwrites.valid, fun i _ => by rw [hrestored], .inl hrestored⟩
  · refine ⟨_, s', .record hrefused, hsame.valid, fun i hi => ?_, .inr ⟨e, rfl⟩⟩
    rw [hsame.view, hview, Function.update_of_ne hi]

/-- What is left of the rotation once there is a new session. -/
def relocate {m : Type → Type} [Monad m] (store : SessionStore m) (ctx : RequestContext)
    (old fresh : Session) : m (Step StoreError Unit) := do
  match ← moveSession store old fresh with
  | .ok () => return (ctx.withSession (some fresh.id), .ok ())
  | .error e => do
    let _ ← store.invalidate fresh.id
    return (ctx, .error e)

/-- Once there is a new session, the request is moved to it, or it is discarded. -/
theorem relocate_makes (h : M.Laws store fails) {ctx : RequestContext} {old : Session}
    {id : SessionId} {s₀ : σ} {before : List LoginCall} (hs : M.valid k s)
    (hnamed : ctx.sessionId = some old.id) (hold : M.session? s₀ old.id = some old)
    (hknown : M.known s₀ old.id) (hfresh : ¬M.known s₀ id) (hnone : M.view s₀ id = none)
    (hview : M.view s = Function.update (M.view s₀) id (some (.fresh id, M.stamp)))
    (hmade : .create (.ok (.fresh id)) ∈ before) :
    ∃ calls step s', Makes (relocate store ctx old (.fresh id))
        (relocate store.recorded ctx old (.fresh id)) s calls step s' ∧ M.valid k s' ∧
      Rotation M ctx s₀ (before ++ calls) (step.1, step.2.mapError .store) s' := by
  have hne : old.id ≠ id := fun heq => hfresh (heq ▸ hknown)
  have hid : M.view s id = some (.fresh id, M.stamp) := by rw [hview, Function.update_self]
  rcases moveSession_makes h hs old hid with ⟨calls, s', hmoved, hvalid, hview'⟩ |
    ⟨call, calls, e, entry, s₁, hfailed, hvalid, hmem, herror, hview₁⟩
  · rw [hview, Function.update_idem] at hview'
    exact ⟨calls, _, s', hmoved.bind_pure rfl rfl, hvalid,
      .moved hnamed hold (.of_view hne hfresh hview')⟩
  · rw [hview, Function.update_idem] at hview₁
    obtain ⟨r, s', hdiscard, hvalid', hothers, hrestored⟩ := discard_makes h hvalid hnone hview₁
    have hmem' : call ∈ before ++ (calls ++ [.invalidate id r]) :=
      List.mem_append_right _ (List.mem_append_left _ hmem)
    refine ⟨calls ++ [.invalidate id r], (ctx, .error e), s', hfailed.bind ?_, hvalid', ?_⟩
    · exact hdiscard.bind_pure (f := fun _ => pure _) (g := fun _ => pure _) rfl rfl
    rcases hrestored with hsame | ⟨e', rfl⟩
    · exact .undone hmem' herror hsame
    · have hkept : .invalidate (Session.fresh id).id (.error e') ∈
          before ++ (calls ++ [.invalidate id (.error e')]) :=
        List.mem_append_right _ (List.mem_append_right _ (List.mem_singleton_self _))
      exact .stranded hmem' herror (List.mem_append_left _ hmade) hkept hfresh hothers

theorem rotate_makes (h : M.Laws store fails) (hs : M.valid (k + 1) s) (ctx : RequestContext) :
    ∃ calls step s', Makes (rotate store ctx) (rotate store.recorded ctx) s calls step s' ∧
      M.valid k s' ∧ Rotation M ctx s calls (step.1, step.2.mapError .store) s' := by
  cases hid : ctx.sessionId with
  | none =>
    refine ⟨[], (ctx, .ok ()), s, ?_, h.weaken hs, .nothing (by simp [hid]) rfl⟩
    simp only [rotate, hid]
    exact .pure _ _
  | some id =>
    simp only [rotate, hid]
    rcases h.get id hs with ⟨s₁, hfound, hsame⟩ | ⟨-, e, s', hrefused, hsame⟩
    · cases hold : M.session? s id with
      | none =>
        rw [hold] at hfound
        refine ⟨_, _, s₁, (Makes.record hfound).bind_pure rfl rfl, h.weaken hsame.valid,
          .nothing ?_ hsame.view⟩
        rw [hid]
        rintro _ ⟨⟩
        exact hold
      | some old =>
        obtain rfl : old.id = id := h.id_eq hs hold
        rw [hold] at hfound
        rcases h.create hsame.valid with ⟨new, s₂, hmade, hcreates⟩ | ⟨-, e, s', hrefused, hsame'⟩
        · -- The new id was not in use, so there is no session under it yet.
          have hfresh : ¬M.known s new := hsame.known ▸ hcreates.fresh
          have hnone : M.view s new = none := by
            refine Option.map_eq_none_iff (f := Prod.fst).1 ?_
            exact Option.eq_none_iff_forall_ne_some.2 fun x hx => hfresh (h.known_of_session hs hx)
          have hcall : LoginCall.create (.ok (.fresh new)) ∈
              [LoginCall.get old.id (.ok (some old)), .create (.ok (.fresh new))] := by simp
          obtain ⟨calls, step, s', hmakes, hvalid, hrotation⟩ :=
            relocate_makes h hcreates.valid hid hold (h.known_of_session hs hold) hfresh hnone
              (hsame.view ▸ hcreates.view) hcall
          exact ⟨_, step, s', (Makes.record hfound).bind ((Makes.record hmade).bind hmakes), hvalid,
            hrotation⟩
        · refine ⟨_, _, s', (Makes.record hfound).bind ((Makes.record hrefused).bind_pure rfl rfl),
            h.weaken hsame'.valid, ?_⟩
          exact .undone (List.mem_append_right _ (List.mem_singleton_self _)) rfl
            (hsame'.view.trans hsame.view)
    · exact ⟨_, _, s', (Makes.record hrefused).bind_pure rfl rfl, h.weaken hsame.valid,
        .undone (List.mem_singleton_self _) rfl hsame.view⟩

/-- Told of a login, the strategy ends, whatever the request and the sessions are and whichever
calls the store refuses. It succeeds if the request has no session that the store knows, and then
nothing changes, or by replacing the session of the request by a new one that holds the same. It
fails only if a call was refused, and then the request is where it was and all sessions read as
before, with no new one among them, unless the call that discards the new session was refused as
well. -/
theorem changeId_rotation (h : M.Laws store fails) (hs : M.valid (k + 1) s) (ctx : RequestContext)
    (p : Principal) :
    ∃ calls step s', Makes ((changeId store).onAuthentication ctx p)
        ((changeId store.recorded).onAuthentication ctx p) s calls step s' ∧ M.valid k s' ∧
      Rotation M ctx s calls step s' := by
  obtain ⟨calls, step, s', hmakes, hvalid, hrotation⟩ := rotate_makes h hs ctx
  exact ⟨calls, _, s', hmakes.bind_pure rfl rfl, hvalid, hrotation⟩

/-- The old session cannot be removed, so the new one is, and alice is where she was. -/
theorem changeId_undone :
    ∃ calls w', Makes
        ((changeId (World.sessionStore World.counting).faulty).onAuthentication
          { sessionId := World.counting 0 } World.alice)
        ((changeId (World.sessionStore World.counting).faulty.recorded).onAuthentication
          { sessionId := World.counting 0 } World.alice)
        (World.holding World.alice, [none, none, none, some (.unexpected "down")]) calls
        ({ sessionId := World.counting 0 }, .error (.store (.unexpected "down"))) w' ∧
      (World.model World.counting 8 60 0 ()).view w'.1 =
        (World.model World.counting 8 60 0 ()).view (World.holding World.alice) := by
  have hlaws : (World.model World.counting 8 60 0 ()).Laws
      (World.sessionStore World.counting (α := Unit)) fun _ => False :=
    World.laws (World.injOn_counting (by omega)) (by decide) (by decide) _
  have hw : ((World.model World.counting 8 60 0 ()).faulty 1).valid 7
      (World.holding World.alice, [none, none, none, some (.unexpected "down")]) :=
    ⟨⟨World.sound_holding World.alice, rfl, rfl, rfl, Nat.le_refl 8⟩, by decide⟩
  obtain ⟨calls, step, w', hmakes, -, hrotation⟩ :=
    changeId_rotation (hlaws.faulty_any 1) hw { sessionId := World.counting 0 } World.alice
  have hyields : Yields
      ((changeId (World.sessionStore World.counting).faulty.recorded).onAuthentication
        { sessionId := World.counting 0 } World.alice)
      ((World.holding World.alice, [none, none, none, some (.unexpected "down")]), [])
      ({ sessionId := World.counting 0 }, .error (.store (.unexpected "down")))
      ((⟨⟨60, [(World.counting 0, ⟨⟨World.counting 0, some World.alice⟩, 60000⟩)]⟩, 0, 2, ()⟩, []),
        [.get (World.counting 0) (.ok (some ⟨World.counting 0, some World.alice⟩)),
          .create (.ok (.fresh (World.counting 1))),
          .save ⟨World.counting 1, some World.alice⟩ (.ok ()),
          .invalidate (World.counting 0) (.error (.unexpected "down")),
          .invalidate (World.counting 1) (.ok ())]) := by
    rfl
  obtain ⟨rfl, hends⟩ := (hmakes.recorded []).eq hyields
  obtain rfl : calls = _ := (Prod.mk.inj hends).2
  refine ⟨_, _, hmakes, ?_⟩
  cases hrotation with
  | undone _ _ same => exact same
  | stranded _ _ _ kept new =>
    -- Only the removal of the old session was refused, and that was no new one.
    simp only [List.mem_cons, List.not_mem_nil, reduceCtorEq, LoginCall.invalidate.injEq, and_false,
      or_false, false_or] at kept
    exact absurd ⟨0, Nat.one_pos, kept.1.symm⟩ new

end SessionStrategy

end WebLogin
