/-
The chain of handlers that a logout runs, and the step that ends it.

A handler is code of somebody else. It may change the context and the store as it likes, bind a
principal, move the request to another session, or fail. The chain promises all the same whom it
calls, with what, and what it reports, and that nobody is bound to the request when it is over.

* `LogoutSequence.CleansUp` — every handler is called once, in order, for the same principal;
* `LogoutSequence.runHandlers_cleansUp` — that is how handlers are run;
* `SessionBinder.holder_of_unbind` — if unbinding succeeds, nobody is left in the session, also
  with a store whose calls may fail;
* `LogoutSequence.run_chain` — the whole logout.
-/
import WebLogin.Proofs.Login.Calls
import WebLogin.Proofs.Store.World

namespace WebLogin

variable {σ τ ε : Type} {s s' : σ} {inv : σ → Prop}

/-- The failure that a call of a handler is reported as. -/
def LoginCall.failure? : LoginCall → Option StepFailure
  | cleanup name _ _ (_, .error e) => some ⟨name, e⟩
  | _ => none

/-! ### Unbinding with a store that may fail -/

namespace SessionBinder

variable {M : StoreModel σ τ} {store : SessionStore (StateT σ (Except ε))}
  {fails : StoreOp → Prop} {k : Nat}

theorem holder_of_unbind (h : M.Laws store fails) (hs : M.valid k s) {ctx ctx' : RequestContext}
    {taken : Option Principal}
    (hrun : Yields ((perSession store).unbind ctx) s (ctx', .ok taken) s') :
    ctx.sessionId.bind (M.holder s') = none := by
  cases hid : ctx.sessionId with
  | none => rfl
  | some id =>
    simp only [unbind, RequestContext.unbindPrincipal, hid] at hrun
    rw [Option.bind_some]
    obtain ⟨found, s₁, hget, hrun⟩ := Yields.of_bind hrun
    rcases h.get id hs with ⟨s₂, hfound, hsame⟩ | ⟨-, e, s₂, hfailed, -⟩
    · obtain ⟨rfl, rfl⟩ := hget.eq hfound
      cases hx : M.session? s id with
      | none =>
        rw [hx] at hrun
        obtain ⟨-, rfl⟩ := hrun.eq (.pure _ _)
        rw [hsame.holder, StoreModel.holder, hx, Option.bind_none]
      | some x =>
        rw [hx] at hrun
        by_cases hp : x.principal.isSome = true
        · -- Somebody was in the session, so it was written without them.
          simp only [hp, if_true] at hrun
          obtain ⟨saved, s₃, hsaved, hrun⟩ := Yields.of_bind hrun
          have hxid : M.session? s₁ x.id = some x := by
            rw [hsame.session?, h.id_eq hs hx, hx]
          rcases h.save (x := { x with principal := none }) hsame.valid
              (Option.isSome_of_eq_some hxid) with ⟨s₄, hok, hw⟩ | ⟨-, e, s₄, hfailed, -⟩
          · obtain ⟨rfl, rfl⟩ := hsaved.eq hok
            obtain ⟨-, rfl⟩ := hrun.eq (.pure _ _)
            rw [StoreModel.holder, StoreModel.session?, hw.view, h.id_eq hs hx,
              Function.update_self]
            rfl
          · obtain ⟨rfl, -⟩ := hsaved.eq hfailed
            exact absurd (hrun.eq (.pure _ _)).1 (by simp)
        · simp only [hp] at hrun
          obtain ⟨-, rfl⟩ := hrun.eq (.pure _ _)
          rw [hsame.holder, StoreModel.holder, hx, Option.bind_some]
          exact Option.not_isSome_iff_eq_none.1 hp
    · obtain ⟨rfl, -⟩ := hget.eq hfailed
      exact absurd (hrun.eq (.pure _ _)).1 (by simp)

end SessionBinder

/-! ### The handlers -/

namespace LogoutSequence

/-- Handlers that clean up one after the other for the same principal. Each is called once, on the
context that the one before it left, and no failure stops those after it. -/
inductive CleansUp (p : Option Principal) : List (LogoutHandler (StateT σ (Except ε))) →
    RequestContext → σ → List LoginCall → RequestContext → σ → Prop where
  | nil (ctx : RequestContext) (s : σ) : CleansUp p [] ctx s [] ctx s
  | cons {handler : LogoutHandler (StateT σ (Except ε))}
      {rest : List (LogoutHandler (StateT σ (Except ε)))} {ctx ctx₁ ctx' : RequestContext}
      {s s₁ s' : σ} {r : Except HandlerError Unit} {calls : List LoginCall} :
      Yields (handler.cleanup ctx p) s (ctx₁, r) s₁ → CleansUp p rest ctx₁ s₁ calls ctx' s' →
      CleansUp p (handler :: rest) ctx s (.cleanup handler.name ctx p (ctx₁, r) :: calls) ctx' s'

theorem CleansUp.of_yields {p : Option Principal}
    {handlers : List (LogoutHandler (StateT σ (Except ε)))} {ctx ctx' : RequestContext}
    {failures : List StepFailure}
    (h : Yields (runHandlers p handlers ctx) s (ctx', failures) s') :
    ∃ calls, CleansUp p handlers ctx s calls ctx' s' := by
  induction handlers generalizing ctx s failures with
  | nil =>
    obtain ⟨hstep, rfl⟩ := h.eq (.pure _ _)
    obtain ⟨rfl, -⟩ := Prod.mk.inj hstep
    exact ⟨[], .nil ctx' s'⟩
  | cons handler rest ih =>
    obtain ⟨⟨ctx₁, r⟩, s₁, hcleanup, hrest⟩ := h.of_bind
    obtain ⟨⟨ctx₂, failures₂⟩, s₂, hlater, hpure⟩ := hrest.of_bind
    obtain ⟨hstep, rfl⟩ := hpure.eq (.pure _ _)
    obtain ⟨rfl, -⟩ := Prod.mk.inj hstep
    obtain ⟨calls, hcalls⟩ := ih hlater
    exact ⟨_, .cons hcleanup hcalls⟩

theorem runHandlers_cleansUp (p : Option Principal)
    {handlers : List (LogoutHandler (StateT σ (Except ε)))}
    (hall : ∀ handler ∈ handlers, ∀ ctx, Responds inv (handler.cleanup ctx p))
    (ctx : RequestContext) (hs : inv s) :
    ∃ calls ctx' s', Makes (runHandlers p handlers ctx)
        (runHandlers p (handlers.map LogoutHandler.recorded) ctx) s calls
        (ctx', calls.filterMap LoginCall.failure?) s' ∧
      inv s' ∧ CleansUp p handlers ctx s calls ctx' s' := by
  induction handlers generalizing ctx s with
  | nil => exact ⟨[], ctx, s, .pure _ _, hs, .nil ctx s⟩
  | cons handler rest ih =>
    obtain ⟨⟨ctx₁, r⟩, s₁, hcleanup, hs₁⟩ := hall handler List.mem_cons_self ctx s hs
    obtain ⟨calls, ctx', s', hmakes, hs', hrest⟩ :=
      ih (fun handler hmem => hall handler (List.mem_cons_of_mem _ hmem)) ctx₁ hs₁
    refine ⟨.cleanup handler.name ctx p (ctx₁, r) :: calls, ctx', s', ?_, hs', .cons hcleanup hrest⟩
    have hfailures : (LoginCall.cleanup handler.name ctx p (ctx₁, r) :: calls).filterMap
        LoginCall.failure? = failureOf handler.name r ++ calls.filterMap LoginCall.failure? := by
      cases r <;> rfl
    rw [hfailures]
    exact (Makes.record hcleanup).bind (hmakes.bind_pure rfl rfl)

/-! ### The whole logout -/

/-- What a logout reports: the handlers that failed, in the order in which they were called, and
after them the binder if unbinding failed as well. -/
structure Reports (calls : List LoginCall) (unbound : Except StoreError (Option Principal))
    (r : Except LogoutError Unit) : Prop where
  isOk_iff : r = .ok () ↔ (∀ call ∈ calls, call.failure? = none) ∧ ∃ taken, unbound = .ok taken
  failures : ∀ f, r = .error f → ∃ last,
    f = .handlers (calls.filterMap LoginCall.failure? ++ last) ∧
      ((∃ taken, unbound = .ok taken) ∧ last = [] ∨
        ∃ e, unbound = .error e ∧ last = [⟨"session-binder", .store e⟩])

theorem resultOf_eq_ok_iff (failures : List StepFailure) :
    resultOf failures = .ok () ↔ failures = [] := by
  cases failures <;> simp [resultOf]

theorem eq_handlers_of_resultOf {failures : List StepFailure} {f : LogoutError}
    (h : resultOf failures = .error f) : f = .handlers failures := by
  cases failures with
  | nil => exact absurd h (by simp [resultOf])
  | cons failure rest => exact (Except.error.inj h).symm

theorem reports_resultOf (calls : List LoginCall)
    (unbound : Except StoreError (Option Principal)) :
    Reports calls unbound (resultOf
      (calls.filterMap LoginCall.failure? ++ failureOf binderName (unbound.mapError .store))) where
  isOk_iff := by
    rw [resultOf_eq_ok_iff, List.append_eq_nil_iff, List.filterMap_eq_nil_iff]
    refine and_congr Iff.rfl ?_
    cases unbound <;> simp [failureOf, Except.mapError]
  failures f hf := by
    refine ⟨_, eq_handlers_of_resultOf hf, ?_⟩
    cases unbound with
    | ok taken => exact .inl ⟨⟨taken, rfl⟩, rfl⟩
    | error e => exact .inr ⟨e, rfl, rfl⟩

/-- A logout calls each of its handlers once and in order, whatever they do and whichever of them
fail, on the context that the one before it left, and all for the same principal: the given one, or
else the one that was bound to the request at first. Then it unbinds once, and nobody is bound to
the request any more. If that worked out, nobody is left in the session that the request now names.
What failed is reported, and nothing else. -/
theorem run_chain {seq : LogoutSequence (StateT σ (Except ε))}
    (hall : ∀ handler ∈ seq.handlers, ∀ ctx p, Responds inv (handler.cleanup ctx p))
    (hbinder : seq.binder.Responds inv) (ctx : RequestContext) (given : Option Principal)
    (hs : inv s) :
    ∃ calls ctx₁ s₁ calls' ctx' unbound r s',
      Makes (seq.run ctx given) (seq.recorded.run ctx given) s (calls ++ calls') (ctx', r) s' ∧
      inv s' ∧ CleansUp (given <|> ctx.principal) seq.handlers ctx s calls ctx₁ s₁ ∧
      Makes (seq.binder.unbind ctx₁) (seq.binder.recorded.unbind ctx₁) s₁ calls' (ctx', unbound)
        s' ∧
      hooks calls' = [] ∧ ctx'.principal = none ∧
      (∀ {τ : Type} {M : StoreModel σ τ} {store fails k}, seq.binder = .perSession store →
        M.Laws store fails → M.valid k s₁ → (∃ taken, unbound = .ok taken) →
        ctx'.sessionId.bind (M.holder s') = none) ∧
      Reports calls unbound r := by
  obtain ⟨calls, ctx₁, s₁, hhandlers, hs₁, hcleans⟩ :=
    runHandlers_cleansUp (given <|> ctx.principal) (fun handler hmem ctx => hall handler hmem ctx _)
      ctx hs
  obtain ⟨calls', ⟨ctx', unbound⟩, s', hunbind, hs', hcalled, hctx⟩ :=
    SessionBinder.unbind_tells hbinder ctx₁ s₁ hs₁
  obtain rfl : ctx' = ctx₁.unbindPrincipal := hctx
  refine ⟨calls, ctx₁, s₁, calls', ctx₁.unbindPrincipal, unbound, _, s', ?_, hs', hcleans, hunbind,
    hcalled.hooks_eq_nil, rfl, ?_, reports_resultOf calls unbound⟩
  · exact hhandlers.bind (hunbind.bind_pure rfl rfl)
  · rintro τ M store fails k hbinder h hvalid ⟨taken, rfl⟩
    have hrun : Yields ((SessionBinder.perSession store).unbind ctx₁) s₁ _ s' :=
      hbinder ▸ hunbind.yields
    have hempty : ctx₁.sessionId.bind (M.holder s') = none :=
      SessionBinder.holder_of_unbind h hvalid hrun
    exact hempty

end LogoutSequence

/-- As long as the clock can write their deadlines, a store in memory answers every call. -/
theorem World.responds_sessionStore {α : Type} (ids : Nat → SessionId) :
    (World.sessionStore ids : SessionStore (World.Run α)).Responds
      fun w => w.clock / 1000 + w.store.ttl ≤ Uptime.lastSecond where
  create w hw := by
    have hdraw : Yields (freshId ids) w (ids w.drawn) { w with drawn := w.drawn + 1 } := rfl
    exact ⟨_, ⟨(w.store.purge w.clock).insert (ids w.drawn)
        ⟨.fresh (ids w.drawn), w.clock + 1000 * w.store.ttl⟩, w.clock, w.drawn + 1, w.outside⟩,
      (clock_yields w).bind (hdraw.bind ((update_yields (MemoryStore.create_eq hw)).bind
        (.pure _ _))), hw⟩
  get id w hw := by
    refine ⟨.ok (w.store.get w.clock id).1, { w with store := (w.store.get w.clock id).2 },
      (clock_yields w).bind ((update_yields rfl).bind (.pure _ _)), ?_⟩
    show w.clock / 1000 + (w.store.get w.clock id).2.ttl ≤ Uptime.lastSecond
    rcases MemoryStore.get_snd w.store w.clock id with hsnd | ⟨hsnd, -⟩
    · rw [hsnd]
      exact hw
    · rw [hsnd, MemoryStore.erase]
      exact hw
  save x w hw := by
    by_cases hx : (w.store.live w.clock x.id).isSome = true
    · exact ⟨_, _, (clock_yields w).bind (update_yields (MemoryStore.save_eq_of_live hw hx)), hw⟩
    · rw [Option.not_isSome_iff_eq_none] at hx
      exact ⟨_, _, (clock_yields w).bind (update_yields (MemoryStore.save_eq_of_missing hx)), hw⟩
  invalidate id w hw := ⟨.ok (), { w with store := w.store.invalidate id },
    (update_yields rfl).bind (.pure _ _), hw⟩

namespace LogoutSequence

/-- Two handlers of somebody else: one fails, and one binds another principal and lets the first
session stand for the request. -/
def unruly : LogoutSequence (World.Run Unit) where
  handlers :=
    [⟨"audit", fun ctx _ => return (ctx, .error (.unexpected "full"))⟩,
      ⟨"stand-in", fun ctx _ => return ({ ctx with
        sessionId := World.counting 0
        principal := some ⟨"bob", .empty⟩ }, .ok ())⟩]
  binder := .perSession (World.sessionStore World.counting)

/-- In the session of alice. The handler that fails is reported, and nobody is left. -/
theorem run_chain_unruly :
    ∃ calls ctx s', Makes (unruly.run {} none) (unruly.recorded.run {} none)
        (World.holding World.alice) calls
        (ctx, .error (.handlers [⟨"audit", .unexpected "full"⟩])) s' ∧
      ctx.sessionId = World.counting 0 ∧ ctx.principal = none ∧
      (World.model World.counting 1 60 0 ()).holder s' (World.counting 0) = none := by
  have hall : ∀ handler ∈ unruly.handlers, ∀ ctx p,
      Responds (fun w => w.clock / 1000 + w.store.ttl ≤ Uptime.lastSecond)
        (handler.cleanup ctx p) := by
    simp only [unruly, List.forall_mem_cons, List.not_mem_nil, false_implies, implies_true,
      and_true]
    exact ⟨fun _ _ w hw => ⟨_, w, .pure _ _, hw⟩, fun _ _ w hw => ⟨_, w, .pure _ _, hw⟩⟩
  have hs : (World.holding World.alice).clock / 1000 + (World.holding World.alice).store.ttl ≤
      Uptime.lastSecond := by
    decide
  obtain ⟨calls, ctx₁, s₁, calls', ctx', unbound, r, s', hmakes, -, hcleans, hunbind, -, hnobody,
    hholder, -⟩ := run_chain hall (World.responds_sessionStore _) {} none hs
  -- The handlers leave the store alone, so it still keeps its laws when the principal is unbound.
  obtain rfl : s₁ = World.holding World.alice := by
    simp only [unruly] at hcleans
    cases hcleans with
    | cons haudit hrest =>
      obtain ⟨-, rfl⟩ := haudit.eq (.pure _ _)
      cases hrest with
      | cons hstandIn hrest =>
        obtain ⟨-, rfl⟩ := hstandIn.eq (.pure _ _)
        cases hrest
        rfl
  have hlaws : (World.model World.counting 1 60 0 ()).Laws
      (World.sessionStore World.counting) fun _ => False :=
    World.laws (World.injOn_counting (by omega)) (by decide) (by decide) _
  have hvalid := World.valid_holding World.alice
  have hrun : Yields (unruly.run {} none) (World.holding World.alice)
      ({ sessionId := World.counting 0 }, .error (.handlers [⟨"audit", .unexpected "full"⟩]))
      ⟨⟨60, [(World.counting 0, ⟨.fresh (World.counting 0), 60000⟩)]⟩, 0, 1, ()⟩ := by
    rfl
  obtain ⟨s₂, hok, -⟩ := SessionBinder.unbind_yields hlaws not_false not_false hvalid ctx₁
  obtain ⟨hstep, -⟩ := hunbind.yields.eq hok
  obtain ⟨-, rfl⟩ := Prod.mk.inj hstep
  have hempty := hholder rfl hlaws hvalid ⟨_, rfl⟩
  obtain ⟨hstep, rfl⟩ := hmakes.yields.eq hrun
  obtain ⟨rfl, rfl⟩ := Prod.mk.inj hstep
  exact ⟨_, _, _, hmakes, rfl, hnobody, hempty⟩

end LogoutSequence

end WebLogin
