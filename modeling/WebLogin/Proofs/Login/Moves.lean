/-
How the steps of a request move it from one session to another.

A step over a store in memory, if it comes to an end, has moved its request in the sense of
`World.Shifts`, from the session that it came with to the one that it is left with. Most steps do
less: the request stays where it was, or gives its session up, and nobody is put anywhere.

* `Moving.bind` — how the steps of a request are put together;
* `SessionBinder.restore_of_yields`, `bind_of_yields`, `unbind_of_yields` — the steps of a binder;
* `Authentication.run_moves` — a whole login;
* `Authentication.run_of_error` — a login that fails puts nobody into a session of the store.
-/
import WebLogin.Proofs.Login.Collaborators
import WebLogin.Proofs.Login.Scoping
import WebLogin.Proofs.Store.Occupancy

namespace WebLogin

open World (Calm Rests Shifts Drawn Settles)

variable {α β γ : Type} {ids : Nat → SessionId} {w w' : World α} {ctx ctx' : RequestContext}
  {old : Option SessionId}

/-- If it comes to an end, nobody was put into any session. -/
def Calming (ids : Nat → SessionId) (x : World.Run α β) : Prop :=
  ∀ ⦃w b w'⦄, w.Sound ids → Yields x w b w' → Calm ids w w'

/-- If it comes to an end, the request has stayed in its session or given it up. -/
def Resting (ids : Nat → SessionId) (old : Option SessionId)
    (x : World.Run α (RequestContext × β)) : Prop :=
  ∀ ⦃w step w'⦄, w.Sound ids → Yields x w step w' → Rests ids old step.1.sessionId w w'

/-- If it comes to an end, the request has moved from its session to the one that it is left
with. -/
def Moving (ids : Nat → SessionId) (old : Option SessionId)
    (x : World.Run α (RequestContext × β)) : Prop :=
  ∀ ⦃w step w'⦄, w.Sound ids → Yields x w step w' → Shifts ids old step.1.sessionId w w'

namespace Resting

theorem pure {step : RequestContext × β} (h : step.1.sessionId = old) :
    Resting ids old (pure step : World.Run α (RequestContext × β)) := by
  intro w step' w' hw hrun
  obtain ⟨rfl, rfl⟩ := hrun.eq (.pure _ _)
  rw [h]
  exact (Calm.refl hw).rests old

theorem bind {x : World.Run α (RequestContext × β)}
    {f : RequestContext × β → World.Run α (RequestContext × γ)} (hx : Resting ids old x)
    (hf : ∀ step, Resting ids step.1.sessionId (f step)) : Resting ids old (x >>= f) := by
  intro w step w' hw h
  obtain ⟨first, w₁, hfirst, hrest⟩ := h.of_bind
  have hrests : Rests ids old first.1.sessionId w w₁ := hx hw hfirst
  exact hrests.trans (hf first hrests.calm.sound hrest)

theorem moving {x : World.Run α (RequestContext × β)} (hx : Resting ids old x) :
    Moving ids old x := fun _ _ _ hw h => (hx hw h).moves

end Resting

namespace Moving

theorem bind {x : World.Run α (RequestContext × β)}
    {f : RequestContext × β → World.Run α (RequestContext × γ)} (hx : Moving ids old x)
    (hf : ∀ step, Moving ids step.1.sessionId (f step)) : Moving ids old (x >>= f) := by
  intro w step w' hw h
  obtain ⟨first, w₁, hfirst, hrest⟩ := h.of_bind
  have hmoves : Shifts ids old first.1.sessionId w w₁ := hx hw hfirst
  exact hmoves.trans (hf first hmoves.sound hrest)

/-- Something that puts nobody into a session goes before. -/
theorem after {x : World.Run α β} {f : β → World.Run α (RequestContext × γ)}
    (hx : Calming ids x) (hf : ∀ b, Moving ids old (f b)) : Moving ids old (x >>= f) := by
  intro w step w' hw h
  obtain ⟨b, w₁, hfirst, hrest⟩ := h.of_bind
  have hcalm : Calm ids w w₁ := hx hw hfirst
  exact (hcalm.rests old).moves.trans (hf b hcalm.sound hrest)

end Moving

/-! ### Restoring and binding -/

namespace SessionBinder

/-- A binder over the store of a world, or one that keeps no sessions. -/
inductive Over (ids : Nat → SessionId) : SessionBinder (World.Run α) → Prop where
  | perSession : Over ids (.perSession (World.sessionStore ids))
  | perClient : Over ids .perClient

variable {b : SessionBinder (World.Run α)}

/-- What restoring has done: the request has kept its session, or given up one that is not there. If
nobody is in the session, nobody is restored. -/
structure Restores (ids : Nat → SessionId) (b : SessionBinder (World.Run α))
    (ctx ctx' : RequestContext) (w w' : World α) : Prop where
  rests : Rests ids ctx.sessionId ctx'.sessionId w w'
  cookies : ctx.SameCookies ctx'
  nobody : (b ≠ .perClient → ∀ id, ctx.sessionId = some id → w.Vacant id) →
    ctx'.principal = ctx.principal
  drawn : b ≠ .perClient → ∀ id, ctx'.sessionId = some id → Drawn ids w' id

theorem restore_of_yields (hb : b.Over ids) (hw : w.Sound ids) {r : Except StoreError Unit}
    (h : Yields (b.restore ctx) w (ctx', r) w') :
    r = .ok () ∧ Restores ids b ctx ctx' w w' := by
  cases hb with
  | perClient =>
    obtain ⟨hstep, rfl⟩ := h.eq (.pure _ _)
    obtain ⟨rfl, rfl⟩ := Prod.mk.inj hstep
    exact ⟨rfl, (Calm.refl hw).rests _, .refl _, fun _ => rfl, fun hne => absurd rfl hne⟩
  | perSession =>
    cases hid : ctx.sessionId with
    | none =>
      simp only [restore, hid] at h
      obtain ⟨hstep, rfl⟩ := h.eq (.pure _ _)
      obtain ⟨rfl, rfl⟩ := Prod.mk.inj hstep
      refine ⟨rfl, (Calm.refl hw).rests _, .refl _, fun _ => rfl, fun _ id hsome => ?_⟩
      rw [hid] at hsome
      cases hsome
    | some id =>
      simp only [restore, hid] at h
      obtain ⟨found, w₁, hget, hrest⟩ := h.of_bind
      rcases World.get_of_yields hw hget with ⟨e, hlive, rfl, rfl⟩ | ⟨rfl, hcalm, hgone, -⟩
      · obtain ⟨hfind, -⟩ := MemoryStore.live_eq_some_iff.1 hlive
        have hdrawn : ∀ id', ctx.sessionId = some id' → Drawn ids w₁ id' := by
          intro id' hid'
          rw [hid] at hid'
          exact Option.some.inj hid' ▸ hw.drawn id e hfind
        cases hp : e.session.principal with
        | none =>
          simp only [hp] at hrest
          obtain ⟨hstep, rfl⟩ := hrest.eq (.pure _ _)
          obtain ⟨rfl, rfl⟩ := Prod.mk.inj hstep
          exact ⟨rfl, (Calm.refl hw).rests _, .refl _, fun _ => rfl, fun _ => hdrawn⟩
        | some p =>
          simp only [hp] at hrest
          obtain ⟨hstep, rfl⟩ := hrest.eq (.pure _ _)
          obtain ⟨rfl, rfl⟩ := Prod.mk.inj hstep
          refine ⟨rfl, (Calm.refl hw).rests _, ⟨rfl, rfl⟩, fun hvacant => ?_, fun _ => hdrawn⟩
          have hnobody := hvacant (by simp) id hid e hfind
          rw [hp] at hnobody
          cases hnobody
      · obtain ⟨hstep, rfl⟩ := hrest.eq (.pure _ _)
        obtain ⟨rfl, rfl⟩ := Prod.mk.inj hstep
        refine ⟨rfl, ⟨hcalm, .inr ⟨rfl, ?_⟩⟩, ⟨rfl, rfl⟩, fun _ => rfl, fun _ id h => by cases h⟩
        intro id' hid'
        rw [hid] at hid'
        exact Option.some.inj hid' ▸ World.vacant_of_find?_eq_none hgone

/-- Restoring always comes to an end. -/
theorem restore_ends (hb : b.Over ids) (ctx : RequestContext) (w : World α) :
    ∃ ctx' w', Yields (b.restore ctx) w (ctx', .ok ()) w' := by
  cases hb with
  | perClient => exact ⟨ctx, w, .pure _ _⟩
  | perSession =>
    simp only [restore]
    cases ctx.sessionId with
    | none => exact ⟨ctx, w, .pure _ _⟩
    | some id =>
      have hget : Yields ((World.sessionStore ids).get id) w _ _ := World.get_ends w id
      cases hfound : (w.store.get w.clock id).1 with
      | none =>
        rw [hfound] at hget
        exact ⟨_, _, hget.bind (.pure _ _)⟩
      | some x =>
        rw [hfound] at hget
        obtain ⟨xid, p⟩ := x
        cases p with
        | none => exact ⟨_, _, hget.bind (.pure _ _)⟩
        | some p => exact ⟨_, _, hget.bind (.pure _ _)⟩

theorem existing_of_yields (hw : w.Sound ids) {r : Except StoreError (Option Session)}
    (h : Yields (existing (World.sessionStore ids) ctx) w r w') :
    (∃ x, r = .ok (some x) ∧ w' = w ∧ ctx.sessionId = some x.id ∧ Drawn ids w x.id) ∨
      r = .ok none ∧ Calm ids w w' ∧ ∀ id, ctx.sessionId = some id → w'.Vacant id := by
  rw [existing] at h
  cases hid : ctx.sessionId with
  | none =>
    rw [hid] at h
    obtain ⟨rfl, rfl⟩ := h.eq (.pure _ _)
    exact .inr ⟨rfl, .refl hw, fun id h => by cases h⟩
  | some id =>
    rw [hid] at h
    rcases World.get_of_yields hw h with ⟨e, hlive, rfl, rfl⟩ | ⟨rfl, hcalm, hgone, -⟩
    · obtain ⟨hfind, -⟩ := MemoryStore.live_eq_some_iff.1 hlive
      have heid : e.session.id = id := hw.store.id_eq id e hfind
      exact .inl ⟨e.session, rfl, rfl, by rw [heid], heid ▸ hw.drawn id e hfind⟩
    · refine .inr ⟨rfl, hcalm, fun id' hid' => ?_⟩
      exact Option.some.inj hid' ▸ World.vacant_of_find?_eq_none hgone

/-- The request goes on in its session, or in a new one if its own is not there. -/
theorem sessionOf_of_yields (hw : w.Sound ids) {r : Except StoreError Session}
    (h : Yields (sessionOf (World.sessionStore ids) ctx) w (ctx', r) w') :
    ∃ x, r = .ok x ∧ ctx' = ctx.withSession (some x.id) ∧ Calm ids w w' ∧
      Shifts ids ctx.sessionId (some x.id) w w' ∧ Drawn ids w' x.id := by
  rw [sessionOf_eq] at h
  obtain ⟨found, w₁, hexisting, hrest⟩ := h.of_bind
  rcases existing_of_yields hw hexisting with
    ⟨x, rfl, rfl, hid, hdrawn⟩ | ⟨rfl, hcalm, hvacant⟩
  · obtain ⟨hstep, rfl⟩ := hrest.eq (.pure _ _)
    obtain ⟨rfl, rfl⟩ := Prod.mk.inj hstep
    have hctx : ctx' = ctx'.withSession (some x.id) := by
      rw [← hid]
      rfl
    exact ⟨x, rfl, hctx, .refl hw, hid ▸ ((Calm.refl hw).rests _).moves, hdrawn⟩
  · obtain ⟨made, w₂, hcreate, hrest⟩ := hrest.of_bind
    obtain ⟨rfl, hcalm', hdrawn, -⟩ := World.create_of_yields hcalm.sound hcreate
    obtain ⟨hstep, rfl⟩ := hrest.eq (.pure _ _)
    obtain ⟨rfl, rfl⟩ := Prod.mk.inj hstep
    have hboth := hcalm.trans hcalm'
    have hlt : w₁.drawn < w'.drawn := by omega
    refine ⟨_, rfl, rfl, hboth, ⟨hboth.sound, hboth.drawn, ?_, fun _ _ => hboth.vacant, ?_⟩,
      w₁.drawn, hlt, rfl⟩
    · intro id hid
      exact .inr ⟨w₁.drawn, hcalm.drawn, hlt, Option.some.inj hid⟩
    · exact fun hid _ => hcalm'.vacant (hvacant _ hid)

/-- Saving a session puts somebody into that session at most. -/
theorem save_moves (hw : w.Sound ids) {x : Session} {r : Except StoreError Unit}
    (h : Yields ((World.sessionStore ids).save x) w r w') :
    Shifts ids (some x.id) (some x.id) w w' := by
  rcases World.save_of_yields hw h with ⟨-, hsound, hdrawn, deadline, hstore⟩ | ⟨-, -, rfl⟩
  · refine ⟨hsound, Nat.le_of_eq hdrawn.symm, .inl, ?_, fun hold hnew => absurd hold hnew⟩
    intro id hne _ hvacant
    exact World.vacant_insert hstore (.inr ⟨fun heq => hne (congrArg some heq), hvacant⟩)
  · exact ((Calm.refl hw).rests _).moves

/-- What binding has done: it has put the principal into the session that the request ends in, or
failed and put nobody anywhere. -/
structure Binds (ids : Nat → SessionId) (b : SessionBinder (World.Run α)) (ctx : RequestContext)
    (p : Principal) (step : Step StoreError Unit) (w w' : World α) : Prop where
  moves : Shifts ids ctx.sessionId step.1.sessionId w w'
  bound : step.2 = .ok () → step.1.principal = some p
  calm : ∀ {e}, step.2 = .error e → Calm ids w w'
  drawn : b ≠ .perClient → ∀ id, step.1.sessionId = some id → Drawn ids w' id
  queued : step.1.responseCookies = ctx.responseCookies

theorem bind_of_yields (hb : b.Over ids) (hw : w.Sound ids) {p : Principal}
    {step : Step StoreError Unit} (h : Yields (b.bind ctx p) w step w') :
    Binds ids b ctx p step w w' := by
  cases hb with
  | perClient =>
    obtain ⟨rfl, rfl⟩ := h.eq (.pure _ _)
    exact ⟨((Calm.refl hw).rests _).moves, fun _ => rfl, fun h => (by cases h),
      fun hne => absurd rfl hne, rfl⟩
  | perSession =>
    obtain ⟨⟨ctx₁, found⟩, w₁, hfound, hrest⟩ := h.of_bind
    obtain ⟨x, rfl, rfl, hcalm, hmoves, hdrawn⟩ := sessionOf_of_yields hw hfound
    obtain ⟨saved, w₂, hsave, hrest⟩ := hrest.of_bind
    have hsaves : Shifts ids (some x.id) (some x.id) w₁ w₂ :=
      save_moves (x := { x with principal := some p }) hcalm.sound hsave
    have hnamed : ∀ id, some x.id = some id → Drawn ids w₂ id :=
      fun id hid => Option.some.inj hid ▸ hdrawn.mono hsaves.drawn
    cases saved with
    | error e =>
      obtain ⟨rfl, rfl⟩ := hrest.eq (.pure _ _)
      refine ⟨hmoves.trans hsaves, fun h => (by cases h), fun _ => ?_, fun _ => hnamed, rfl⟩
      -- A session that was not saved is as it was.
      rcases World.save_of_yields hcalm.sound hsave with ⟨h, -⟩ | ⟨-, -, rfl⟩
      · cases h
      · exact hcalm
    | ok u =>
      obtain ⟨rfl, rfl⟩ := hrest.eq (.pure _ _)
      exact ⟨hmoves.trans hsaves, fun _ => rfl, fun h => (by cases h), fun _ => hnamed, rfl⟩

/-- Unbinding puts nobody into a session, and the one of the request is empty then. -/
theorem unbind_of_yields (hb : b.Over ids) (hw : w.Sound ids)
    {r : Except StoreError (Option Principal)} (h : Yields (b.unbind ctx) w (ctx', r) w') :
    ctx' = ctx.unbindPrincipal ∧ Calm ids w w' ∧
      (b ≠ .perClient → ∀ id, ctx.sessionId = some id → w'.Vacant id) := by
  cases hb with
  | perClient =>
    obtain ⟨hstep, rfl⟩ := h.eq (.pure _ _)
    obtain ⟨rfl, rfl⟩ := Prod.mk.inj hstep
    exact ⟨rfl, .refl hw, fun hne => absurd rfl hne⟩
  | perSession =>
    cases hid : ctx.sessionId with
    | none =>
      simp only [unbind, RequestContext.unbindPrincipal, hid] at h
      obtain ⟨hstep, rfl⟩ := h.eq (.pure _ _)
      obtain ⟨rfl, rfl⟩ := Prod.mk.inj hstep
      exact ⟨by rw [RequestContext.unbindPrincipal, hid], .refl hw, fun _ id h => by cases h⟩
    | some id =>
      simp only [unbind, RequestContext.unbindPrincipal, hid] at h
      obtain ⟨found, w₁, hget, hrest⟩ := h.of_bind
      have hctx : ctx.unbindPrincipal =
          ⟨some id, ctx.requestCookies, ctx.responseCookies, none⟩ := by
        rw [RequestContext.unbindPrincipal, hid]
      rw [hctx]
      rcases World.get_of_yields hw hget with ⟨e, hlive, rfl, rfl⟩ | ⟨rfl, hcalm, hgone, -⟩
      · obtain ⟨hfind, -⟩ := MemoryStore.live_eq_some_iff.1 hlive
        have heid : e.session.id = id := hw.store.id_eq id e hfind
        cases hp : e.session.principal with
        | none =>
          simp only [hp, Option.isSome_none, Bool.false_eq_true, if_false] at hrest
          obtain ⟨hstep, rfl⟩ := hrest.eq (.pure _ _)
          obtain ⟨rfl, rfl⟩ := Prod.mk.inj hstep
          refine ⟨rfl, .refl hw, fun _ id' hid' e' he' => ?_⟩
          rw [← Option.some.inj hid', hfind] at he'
          exact Option.some.inj he' ▸ hp
        | some p =>
          simp only [hp, Option.isSome_some, if_true] at hrest
          obtain ⟨saved, w₂, hsave, hrest⟩ := hrest.of_bind
          -- The session is there, so it is saved without the principal.
          rcases World.save_of_yields hw hsave with
            ⟨rfl, hsound, hdrawn, deadline, hstore⟩ | ⟨hmissing, -⟩
          · obtain ⟨hstep, rfl⟩ := hrest.eq (.pure _ _)
            obtain ⟨rfl, rfl⟩ := Prod.mk.inj hstep
            refine ⟨rfl, ⟨hsound, Nat.le_of_eq hdrawn.symm, fun {id'} hvacant => ?_⟩, ?_⟩
            · by_cases hsame : e.session.id = id'
              · exact World.vacant_insert hstore (.inl ⟨hsame, rfl⟩)
              · exact World.vacant_insert hstore (.inr ⟨hsame, hvacant⟩)
            · intro _ id' hid'
              exact World.vacant_insert hstore (.inl ⟨heid.trans (Option.some.inj hid'), rfl⟩)
          · rw [heid, hlive] at hmissing
            cases hmissing
      · obtain ⟨hstep, rfl⟩ := hrest.eq (.pure _ _)
        obtain ⟨rfl, rfl⟩ := Prod.mk.inj hstep
        refine ⟨rfl, hcalm, fun _ id' hid' => ?_⟩
        exact Option.some.inj hid' ▸ World.vacant_of_find?_eq_none hgone

theorem unbind_rests (hb : b.Over ids) (ctx : RequestContext) :
    Resting ids ctx.sessionId (b.unbind ctx) := by
  rintro w ⟨ctx', r⟩ w' hw h
  obtain ⟨rfl, hcalm, -⟩ := unbind_of_yields hb hw h
  exact hcalm.rests _

theorem bind_moves (hb : b.Over ids) (ctx : RequestContext) (p : Principal) :
    Moving ids ctx.sessionId (b.bind ctx p) :=
  fun _ _ _ hw h => (bind_of_yields hb hw h).moves

end SessionBinder

/-! ### Moving to another session -/

namespace SessionStrategy

/-- What a session held has been moved to a new one, or nobody was put anywhere. -/
theorem moveSession_of_yields (hw : w.Sound ids) {held fresh : Session}
    {r : Except StoreError Unit}
    (h : Yields (moveSession (World.sessionStore ids) held fresh) w r w') :
    r = .ok () ∧ w'.Sound ids ∧ w'.drawn = w.drawn ∧ w'.Vacant held.id ∧
        (∀ {id}, id ≠ fresh.id → w.Vacant id → w'.Vacant id) ∨
      ∃ e, r = .error e ∧ Calm ids w w' := by
  rw [moveSession] at h
  cases hp : held.principal with
  | none =>
    simp only [hp] at h
    obtain ⟨rfl, hcalm, hvacant, hdrawn⟩ := World.invalidate_of_yields hw h
    exact .inl ⟨rfl, hcalm.sound, hdrawn, hvacant, fun _ => hcalm.vacant⟩
  | some p =>
    simp only [hp] at h
    obtain ⟨saved, w₁, hsave, hrest⟩ := h.of_bind
    rcases World.save_of_yields hw hsave with
      ⟨rfl, hsound, hdrawn, deadline, hstore⟩ | ⟨-, rfl, rfl⟩
    · obtain ⟨rfl, hcalm, hvacant, hdrawn'⟩ := World.invalidate_of_yields hsound hrest
      refine .inl ⟨rfl, hcalm.sound, hdrawn'.trans hdrawn, hvacant, fun hne hid => ?_⟩
      exact hcalm.vacant (World.vacant_insert hstore (.inr ⟨Ne.symm hne, hid⟩))
    · obtain ⟨rfl, rfl⟩ := hrest.eq (.pure _ _)
      exact .inr ⟨_, rfl, .refl hw⟩

theorem rotate_moves (ctx : RequestContext) :
    Moving ids ctx.sessionId (rotate (World.sessionStore ids) ctx : World.Run α _) := by
  cases hid : ctx.sessionId with
  | none =>
    simp only [rotate, hid]
    exact Resting.moving (.pure hid)
  | some id =>
    simp only [rotate, hid]
    intro w step w' hw h
    obtain ⟨found, w₁, hget, hrest⟩ := h.of_bind
    rcases World.get_of_yields hw hget with ⟨e, hlive, rfl, rfl⟩ | ⟨rfl, hcalm, -, -⟩
    · have heid : e.session.id = id :=
        hw.store.id_eq id e (MemoryStore.live_eq_some_iff.1 hlive).1
      obtain ⟨made, w₂, hcreate, hrest⟩ := hrest.of_bind
      obtain ⟨rfl, hcalm, hdrawn, -⟩ := World.create_of_yields hw hcreate
      obtain ⟨moved, w₃, hmove, hrest⟩ := hrest.of_bind
      rcases moveSession_of_yields hcalm.sound hmove with
        ⟨rfl, hsound, hdrawn', hvacant, hkept⟩ | ⟨e', rfl, hcalm'⟩
      · -- The request has gone to the new session, and the old one is gone.
        obtain ⟨rfl, rfl⟩ := hrest.eq (.pure _ _)
        have hlt : w₁.drawn < w'.drawn := by omega
        refine ⟨hsound, Nat.le_of_lt hlt, ?_, ?_, ?_⟩
        · intro id' hid'
          exact .inr ⟨w₁.drawn, Nat.le_refl _, hlt, Option.some.inj hid'⟩
        · intro id' _ hne hid'
          exact hkept (fun heq => hne (congrArg some heq.symm)) (hcalm.vacant hid')
        · intro id' hid' _
          exact Option.some.inj hid' ▸ heid ▸ hvacant
      · obtain ⟨u, w₄, hinvalidate, hrest⟩ := hrest.of_bind
        obtain ⟨-, hcalm'', -⟩ := World.invalidate_of_yields hcalm'.sound hinvalidate
        obtain ⟨rfl, rfl⟩ := hrest.eq (.pure _ _)
        have hall := (hcalm.trans hcalm').trans hcalm''
        rw [hid]
        exact (hall.rests _).moves
    · obtain ⟨rfl, rfl⟩ := hrest.eq (.pure _ _)
      rw [hid]
      exact (hcalm.rests _).moves

/-- A strategy that moves a request from one session of the store to another, or leaves it where it
is, and that has nothing to do with cookies. -/
structure Over (ids : Nat → SessionId) (s : SessionStrategy (World.Run α)) : Prop where
  moves : ∀ ctx p, Moving ids ctx.sessionId (s.onAuthentication ctx p)
  queued : ∀ ⦃ctx p w step w'⦄, Yields (s.onAuthentication ctx p) w step w' →
    step.1.responseCookies = ctx.responseCookies

theorem Over.null : (null : SessionStrategy (World.Run α)).Over ids where
  moves _ _ := (Resting.pure rfl).moving
  queued ctx p w step w' h := by
    obtain ⟨rfl, -⟩ := h.eq (.pure _ _)
    rfl

theorem Over.changeId :
    (changeId (World.sessionStore ids) : SessionStrategy (World.Run α)).Over ids where
  moves ctx p := (rotate_moves ctx).bind fun _ => (Resting.pure rfl).moving
  queued ctx p w step w' h := by
    obtain ⟨⟨ctx₁, r⟩, w₁, hrotate, hrest⟩ := h.of_bind
    obtain ⟨rfl, -⟩ := hrest.eq (.pure _ _)
    obtain ⟨id, rfl⟩ := eq_withSession_of_rotate hrotate
    rfl

end SessionStrategy

/-! ### Logging in -/

/-- Those who take part in a login over the store of a world. -/
structure Authentication.Over (ids : Nat → SessionId) (rc : RememberMeConfig)
    (clock : World.Run α Timestamp) (a : Authentication (World.Run α)) : Prop where
  verifier : ∀ credential, Calming ids (a.verifier.verify credential)
  binder : a.binder.Over ids
  strategy : a.strategy.Over ids
  rememberMe : a.rememberMe = rc.service clock

namespace Authentication

variable {rc : RememberMeConfig} {clock : World.Run α Timestamp}
  {a : Authentication (World.Run α)}

theorem fail_of_yields (ha : a.Over ids rc clock) {f : LoginFailure}
    {step : Step LoginFailure Principal} (h : Yields (a.fail ctx f) w step w') :
    step = (rc.clearCookie ctx, .error f) ∧ w' = w := by
  have hrun : Yields (a.fail ctx f) w (rc.clearCookie ctx, .error f) w := by
    rw [fail, ha.rememberMe]
    exact Yields.bind (.pure (rc.clearCookie ctx) w) (.pure _ _)
  exact h.eq hrun

theorem fail_rests (ha : a.Over ids rc clock) (ctx : RequestContext) (f : LoginFailure) :
    Resting ids ctx.sessionId (a.fail ctx f) := by
  intro w step w' hw h
  obtain ⟨rfl, rfl⟩ := fail_of_yields ha h
  exact (Calm.refl hw).rests _

theorem loginSuccess_rests (ha : a.Over ids rc clock) (hclock : Calming ids clock)
    (ctx : RequestContext) (p : Principal) (r : Except LoginFailure Principal) :
    Resting ids ctx.sessionId (do return (← a.rememberMe.loginSuccess ctx p, r)) := by
  intro w step w' hw h
  rw [ha.rememberMe] at h
  obtain ⟨ctx', w₁, hsuccess, hrest⟩ := h.of_bind
  obtain ⟨now, w₂, hnow, hpure⟩ := hsuccess.of_bind
  obtain ⟨rfl, rfl⟩ := hpure.eq (.pure _ _)
  obtain ⟨rfl, rfl⟩ := hrest.eq (.pure _ _)
  rw [(rc.sameLogin_loginSuccess now ctx p).sessionId]
  exact (hclock hw hnow : Calm ids w w').rests _

theorem binding_moves (ha : a.Over ids rc clock) (ctx : RequestContext) (p : Principal) :
    Moving ids ctx.sessionId (a.bind ctx p) := by
  refine (SessionBinder.bind_moves ha.binder ctx p).bind ?_
  rintro ⟨ctx₁, bound⟩
  cases bound with
  | error e => exact (Resting.pure rfl).moving
  | ok u => exact (ha.strategy.moves ctx₁ p).bind fun _ => (Resting.pure rfl).moving

theorem complete_moves (ha : a.Over ids rc clock) (hclock : Calming ids clock)
    (ctx : RequestContext) (p : Principal) : Moving ids ctx.sessionId (a.complete ctx p) := by
  refine (binding_moves ha ctx p).bind ?_
  rintro ⟨ctx₁, bound⟩
  cases bound with
  | ok u => exact (loginSuccess_rests ha hclock ctx₁ p (.ok p)).moving
  | error f =>
    refine (SessionBinder.unbind_rests ha.binder ctx₁).moving.bind ?_
    exact fun step => (fail_rests ha step.1 f).moving

theorem run_moves (ha : a.Over ids rc clock) (hclock : Calming ids clock) (ctx : RequestContext)
    (username password : String) : Moving ids ctx.sessionId (a.run ctx username password) := by
  rw [run]
  cases Credential.parse username password with
  | error e => exact (fail_rests ha ctx _).moving
  | ok credential =>
    refine .after (ha.verifier credential) fun verdict => ?_
    cases verdict with
    | error e => exact (fail_rests ha ctx _).moving
    | ok identity => exact complete_moves ha hclock ctx _

/-- What goes wrong after the verifier has agreed has no reason that a client is told. -/
theorem reason_of_bind {p : Principal} {f : LoginFailure}
    (h : Yields (a.bind ctx p) w (ctx', .error f) w') : f.reason = .other := by
  obtain ⟨⟨ctx₁, bound⟩, w₁, hbind, hrest⟩ := h.of_bind
  cases bound with
  | error e =>
    obtain ⟨hstep, -⟩ := hrest.eq (.pure _ _)
    rw [Except.error.inj (Prod.mk.inj hstep).2]
  | ok u =>
    obtain ⟨⟨ctx₂, agreed⟩, w₂, hstrategy, hrest⟩ := hrest.of_bind
    obtain ⟨hstep, -⟩ := hrest.eq (.pure _ _)
    cases agreed with
    | ok u => cases (Prod.mk.inj hstep).2
    | error e => rw [Except.error.inj (Prod.mk.inj hstep).2]

/-- Binding is no matter of cookies. -/
theorem queued_of_bind (ha : a.Over ids rc clock) (hw : w.Sound ids) {p : Principal}
    {step : Step LoginFailure Unit} (h : Yields (a.bind ctx p) w step w') :
    step.1.responseCookies = ctx.responseCookies := by
  obtain ⟨⟨ctx₁, bound⟩, w₁, hbind, hrest⟩ := h.of_bind
  have hqueued : ctx₁.responseCookies = ctx.responseCookies :=
    (SessionBinder.bind_of_yields ha.binder hw hbind).queued
  cases bound with
  | error e =>
    obtain ⟨rfl, -⟩ := hrest.eq (.pure _ _)
    exact hqueued
  | ok u =>
    obtain ⟨agreed, w₂, hstrategy, hrest⟩ := hrest.of_bind
    obtain ⟨rfl, -⟩ := hrest.eq (.pure _ _)
    exact (ha.strategy.queued hstrategy).trans hqueued

/-- A login that breaks off after the verifier has agreed is taken back: nobody is left in a
session of the store. -/
theorem complete_of_error (ha : a.Over ids rc clock) (hw : w.Sound ids) {p : Principal}
    {f : LoginFailure} (h : Yields (a.complete ctx p) w (ctx', .error f) w') :
    f.reason = .other ∧ (ctx.OnlyRemovals → ctx'.OnlyRemovals) ∧
      (a.binder ≠ .perClient → Settles ids ctx.sessionId ctx'.sessionId w w') := by
  obtain ⟨⟨ctx₁, bound⟩, w₁, hbind, hrest⟩ := h.of_bind
  have hmoves : Shifts ids ctx.sessionId ctx₁.sessionId w w₁ := binding_moves ha ctx p hw hbind
  cases bound with
  | ok u =>
    obtain ⟨ctx₂, w₂, hsuccess, hrest⟩ := hrest.of_bind
    obtain ⟨hstep, -⟩ := hrest.eq (.pure _ _)
    cases (Prod.mk.inj hstep).2
  | error f' =>
    obtain ⟨⟨ctx₂, unbound⟩, w₂, hunbind, hrest⟩ := hrest.of_bind
    obtain ⟨rfl, hcalm, hvacant⟩ :=
      SessionBinder.unbind_of_yields ha.binder hmoves.sound hunbind
    obtain ⟨hstep, rfl⟩ := fail_of_yields ha hrest
    obtain ⟨rfl, hf⟩ := Prod.mk.inj hstep
    refine ⟨?_, fun hctx => RequestContext.OnlyRemovals.add (fun c hc => ?_) rc.cookieName,
      fun hb => hmoves.settles hcalm (hvacant hb)⟩
    · rw [Except.error.inj hf]
      exact reason_of_bind hbind
    · have hqueued : ctx₁.responseCookies = ctx.responseCookies := queued_of_bind ha hw hbind
      exact hctx c (hqueued ▸ hc)

/-- A login that is turned down leaves the sessions alone, and one that breaks off puts nobody into
any of them. -/
theorem run_of_error (ha : a.Over ids rc clock) (hw : w.Sound ids) {username password : String}
    {f : LoginFailure} (h : Yields (a.run ctx username password) w (ctx', .error f) w') :
    (f.reason ≠ .other → ctx' = rc.clearCookie ctx) ∧ (ctx.OnlyRemovals → ctx'.OnlyRemovals) ∧
      (a.binder ≠ .perClient → Settles ids ctx.sessionId ctx'.sessionId w w') := by
  rw [run] at h
  cases hparse : Credential.parse username password with
  | error e =>
    rw [hparse] at h
    obtain ⟨hstep, rfl⟩ := fail_of_yields ha h
    obtain ⟨rfl, -⟩ := Prod.mk.inj hstep
    exact ⟨fun _ => rfl, fun hctx => hctx.add rc.cookieName,
      fun _ => ((Calm.refl hw).rests ctx.sessionId).settles⟩
  | ok credential =>
    rw [hparse] at h
    obtain ⟨verdict, w₁, hverify, hrest⟩ := h.of_bind
    have hcalm : Calm ids w w₁ := ha.verifier credential hw hverify
    have hrests := hcalm.rests ctx.sessionId
    cases verdict with
    | error e =>
      obtain ⟨hstep, rfl⟩ := fail_of_yields ha hrest
      obtain ⟨rfl, -⟩ := Prod.mk.inj hstep
      exact ⟨fun _ => rfl, fun hctx => hctx.add rc.cookieName, fun _ => hrests.settles⟩
    | ok identity =>
      obtain ⟨hreason, hremovals, hsettles⟩ := complete_of_error ha hcalm.sound hrest
      exact ⟨fun hf => absurd hreason hf, hremovals, fun hb => hrests.settles.trans (hsettles hb)⟩

end Authentication

end WebLogin
