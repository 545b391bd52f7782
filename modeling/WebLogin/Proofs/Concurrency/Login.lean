/-
The calls that one login makes.

A login over a shared store makes its calls one at a time, and anything may happen between two of
them. It looks up and saves only sessions whose ids it knows, and if it returns a principal, its
last calls save that principal in a session and then move whatever is in that session to a new one.

* `Moves.split` — the call that writes the new session last;
* `login_along` — the calls of a login, from the first to the last.
-/
import WebLogin.Login.Command
import WebLogin.Proofs.Concurrency.Memory

namespace WebLogin

open StoreCall (Calls)

/-- The ids that somebody with a request knows: its own, and those of sessions made for it. -/
def Owns (ctx : RequestContext) (t : List StoreExchange) (id : SessionId) : Prop :=
  ctx.sessionId = some id ∨ ∃ x, ⟨.create, .ok x⟩ ∈ t ∧ x.id = id

/-- Only sessions with known ids are looked up or saved. -/
def OwnCalls (ctx : RequestContext) (t : List StoreExchange) : StoreCall → Prop
  | .get id => Owns ctx t id
  | .save x => Owns ctx t x.id
  | _ => True

/-- A new session is empty, and a session that is found is the one that was asked for. -/
def Fair : StoreExchange → Prop
  | ⟨.create, .ok x⟩ => x.principal = none
  | ⟨.get id, .ok (some x)⟩ => x.id = id
  | _ => True

/-- The calls that move a session that was found to a new one. -/
inductive Moves (x fresh : Session) : List StoreExchange → Prop where
  | empty : x.principal = none →
      Moves x fresh [⟨.create, .ok fresh⟩, ⟨.invalidate x.id, .ok ()⟩]
  | held {p : Principal} : x.principal = some p →
      Moves x fresh [⟨.create, .ok fresh⟩, ⟨.save { fresh with principal := some p }, .ok ()⟩,
        ⟨.invalidate x.id, .ok ()⟩]

/-- Of the calls that move a session to a new one, one is the last to write a session: it writes the
new one. -/
theorem Moves.split {x fresh : Session} {t : List StoreExchange}
    (h : Moves x fresh t) (hfresh : fresh.principal = none) :
    ⟨.create, .ok fresh⟩ ∈ t ∧ (∀ e ∈ t, ∀ id, e.call ≠ .get id) ∧
      ∃ t₁ e t₂, t = t₁ ++ e :: t₂ ∧
        StoreExchange.written? e = some ⟨fresh.id, x.principal⟩ ∧
          ∀ e' ∈ t₂, StoreExchange.written? e' = none := by
  -- An empty session is not saved, so it is still as it was made.
  cases h with
  | empty hx =>
    refine ⟨List.mem_cons_self, by simp, [], _, _, rfl, ?_, by simp [StoreExchange.written?]⟩
    rw [hx, ← hfresh]
    rfl
  | held hx =>
    refine ⟨List.mem_cons_self, by simp, [_], _, _, rfl, ?_, by simp [StoreExchange.written?]⟩
    rw [hx]
    rfl

/-- The calls with which a session is looked up and moved, and the session it is moved to. -/
inductive Rotates (id : SessionId) : Option SessionId → List StoreExchange → Prop where
  | missing : Rotates id (some id) [⟨.get id, .ok none⟩]
  | moved {x fresh : Session} {t : List StoreExchange} : fresh.principal = none →
      Moves x fresh t → Rotates id (some fresh.id) (⟨.get id, .ok (some x)⟩ :: t)

section Along

variable {owner ctx : RequestContext} {t : List StoreExchange} {id : SessionId}

theorem Owns.append (h : Owns owner t id) (t' : List StoreExchange) : Owns owner (t ++ t') id := by
  obtain h | ⟨x, hx, hid⟩ := h
  · exact .inl h
  · exact .inr ⟨x, List.mem_append_left t' hx, hid⟩

theorem Owns.created {x : Session} (t : List StoreExchange) :
    Owns owner (t ++ [⟨.create, .ok x⟩]) x.id :=
  .inr ⟨x, by simp, rfl⟩

theorem sessionOf_along (h : ∀ id, ctx.sessionId = some id → Owns owner t id) :
    (SessionBinder.sessionOf StoreCall.store ctx).Along (OwnCalls owner) Fair
      (fun r t' => (∀ id, r.1.sessionId = some id → Owns owner t' id) ∧
        ∀ x, r.2 = .ok x → r.1.sessionId = some x.id) t := by
  -- A look-up that finds nothing and a request without an id go on in the same way.
  have hcreate {t : List StoreExchange}
      {f : Except StoreError Session → Calls (Step StoreError Session)}
      (h : ∀ id, ctx.sessionId = some id → Owns owner t id)
      (herror : ∀ e, f (.error e) = return (ctx, .error e))
      (hok : ∀ x, f (.ok x) = return (ctx.withSession (some x.id), .ok x)) :
      (StoreCall.store.create >>= f).Along (OwnCalls owner) Fair
      (fun r t' => (∀ id, r.1.sessionId = some id → Owns owner t' id) ∧
        ∀ x, r.2 = .ok x → r.1.sessionId = some x.id) t := by
    refine Program.Along.ask trivial fun r _ => ?_
    cases r with
    | error e =>
      show (f (.error e)).Along _ _ _ _
      rw [herror]
      exact .done ⟨fun id hid => (h id hid).append _, fun _ hx => by cases hx⟩
    | ok x =>
      show (f (.ok x)).Along _ _ _ _
      rw [hok]
      refine .done ⟨fun id hid => ?_, fun y hy => ?_⟩
      · rw [← Option.some.inj hid]
        exact .created t
      · rw [← Except.ok.inj hy]
        rfl
  rw [SessionBinder.sessionOf]
  cases hid : ctx.sessionId with
  | none => exact hcreate h (fun _ => rfl) fun _ => rfl
  | some id =>
    refine Program.Along.ask (h id hid) fun r hr => ?_
    have hown (id' : SessionId) (hid' : ctx.sessionId = some id') :=
      (h id' hid').append [⟨.get id, r⟩]
    rcases r with e | _ | x
    · exact .done ⟨hown, fun _ hx => by cases hx⟩
    · exact hcreate hown (fun _ => rfl) fun _ => rfl
    · refine .done ⟨hown, fun y hy => ?_⟩
      rw [← Except.ok.inj hy, hid]
      exact congrArg some hr.symm

theorem binder_along (h : ∀ id, ctx.sessionId = some id → Owns owner t id) (p : Principal) :
    ((SessionBinder.perSession StoreCall.store).bind ctx p).Along (OwnCalls owner) Fair
      (fun r t' => (∀ id, r.1.sessionId = some id → Owns owner t' id) ∧
        (r.2 = .ok () → ∃ id t₀, r.1.sessionId = some id ∧
          t' = t₀ ++ [⟨.save ⟨id, some p⟩, .ok ()⟩])) t := by
  -- The session is found or made first, and then it is saved with the principal.
  refine (sessionOf_along h).bind fun r t₁ hr => ?_
  obtain ⟨ctx₁, e | x⟩ := r
  · exact .done ⟨hr.1, fun hok => by cases hok⟩
  · have hx : ctx₁.sessionId = some x.id := hr.2 x rfl
    refine Program.Along.ask (hr.1 x.id hx) fun r _ => ?_
    have hown (id : SessionId) (hid : ctx₁.sessionId = some id) :=
      (hr.1 id hid).append [⟨.save { x with principal := some p }, r⟩]
    cases r with
    | error e => exact .done ⟨hown, fun hok => by cases hok⟩
    | ok _ => exact .done ⟨hown, fun _ => ⟨x.id, t₁, hx, rfl⟩⟩

theorem moveSession_along {x fresh : Session} (hown : Owns owner t fresh.id) :
    (SessionStrategy.moveSession StoreCall.store x fresh).Along (OwnCalls owner) Fair
      (fun r t' => ∃ t₁, t' = t ++ t₁ ∧
        (r = .ok () → Moves x fresh (⟨.create, .ok fresh⟩ :: t₁))) t := by
  rw [SessionStrategy.moveSession]
  cases hx : x.principal with
  | none =>
    refine ⟨trivial, fun r _ => ⟨_, rfl, ?_⟩⟩
    rintro rfl
    exact .empty hx
  | some p =>
    refine Program.Along.ask hown fun r _ => ?_
    cases r with
    | error e => exact .done ⟨_, rfl, fun hok => by cases hok⟩
    | ok _ =>
      refine ⟨trivial, fun r _ => ⟨_, List.append_assoc .., ?_⟩⟩
      rintro rfl
      exact .held hx

theorem rotate_along (hid : ctx.sessionId = some id) (hown : Owns owner t id) :
    (SessionStrategy.rotate StoreCall.store ctx).Along (OwnCalls owner) Fair
      (fun r t' => (∀ i, r.1.sessionId = some i → Owns owner t' i) ∧
        (r.2 = .ok () → ∃ t₁, t' = t ++ t₁ ∧ Rotates id r.1.sessionId t₁)) t := by
  have hkeep (t' : List StoreExchange) (i : SessionId) (hi : ctx.sessionId = some i) :
      Owns owner (t ++ t') i := by
    rw [hid] at hi
    exact Option.some.inj hi ▸ hown.append t'
  rw [SessionStrategy.rotate, hid]
  refine Program.Along.ask hown fun r _ => ?_
  rcases r with e | _ | x
  · exact .done ⟨hkeep _, fun hok => by cases hok⟩
  · exact .done ⟨hkeep _, fun _ => ⟨_, rfl, hid ▸ .missing⟩⟩
  refine Program.Along.ask trivial fun r hfresh => ?_
  rcases r with e | fresh
  · rw [List.append_assoc]
    exact .done ⟨hkeep _, fun hok => by cases hok⟩
  refine (moveSession_along (Owns.created _)).bind fun r t' hr => ?_
  obtain ⟨t₁, rfl, hmoves⟩ := hr
  rw [List.append_assoc, List.append_assoc]
  cases r with
  | error e =>
    refine Program.Along.ask trivial fun r _ => ?_
    rw [List.append_assoc]
    exact .done ⟨hkeep _, fun hok => by cases hok⟩
  | ok _ =>
    refine .done ⟨fun i hi => ?_, fun _ => ⟨_, rfl, .moved hfresh (hmoves rfl)⟩⟩
    rw [← Option.some.inj hi]
    exact .inr ⟨fresh, by simp, rfl⟩

theorem changeId_along {p : Principal} (hid : ctx.sessionId = some id)
    (hown : Owns owner t id) :
    ((SessionStrategy.changeId StoreCall.store).onAuthentication ctx p).Along (OwnCalls owner) Fair
      (fun r t' => (∀ i, r.1.sessionId = some i → Owns owner t' i) ∧
        (r.2 = .ok () → ∃ t₁, t' = t ++ t₁ ∧ Rotates id r.1.sessionId t₁)) t := by
  refine (rotate_along hid hown).bind fun r t' hr => ?_
  obtain ⟨ctx', result⟩ := r
  refine .done ⟨hr.1, fun hok => hr.2 ?_⟩
  cases result with
  | error e => cases hok
  | ok _ => rfl

theorem unbind_along (h : ∀ id, ctx.sessionId = some id → Owns owner t id) :
    ((SessionBinder.perSession StoreCall.store).unbind ctx).Along (OwnCalls owner) Fair
      (fun _ _ => True) t := by
  have hid : ctx.unbindPrincipal.sessionId = ctx.sessionId := rfl
  unfold SessionBinder.unbind
  cases hctx : ctx.sessionId with
  | none =>
    simp only [hid, hctx]
    exact .done trivial
  | some id =>
    simp only [hid, hctx]
    refine Program.Along.ask (h id hctx) fun r hr => ?_
    rcases r with e | _ | x
    · exact .done trivial
    · exact .done trivial
    · dsimp only
      split
      · have hsave : Owns owner (t ++ [⟨.get id, .ok (some x)⟩]) x.id := by
          rw [show x.id = id from hr]
          exact (h id hctx).append _
        refine Program.Along.ask hsave fun r _ => ?_
        cases r with
        | error e => exact .done trivial
        | ok _ => exact .done trivial
      · exact .done trivial

end Along

/-- A command that shares its sessions with others: they are kept in the store, and a login moves to
a new one. Neither the verifier nor remember-me has to do with the store. -/
structure SharesStore (c : LoginCommand Calls) : Prop where
  started : ∃ handlers, c.started = some ⟨handlers, .perSession StoreCall.store⟩
  strategy : c.config.strategy = .changeId StoreCall.store
  verifier : ∀ credential, ∃ r, c.config.verifier.verify credential = pure r
  loginSuccess : ∀ ctx p, ∃ ctx', c.config.rememberMe.loginSuccess ctx p = pure ctx' ∧
    ctx'.sessionId = ctx.sessionId
  loginFail : ∀ ctx, ∃ ctx', c.config.rememberMe.loginFail ctx = pure ctx'

/-- The calls with which a login ends: it saves its principal in a session and then rotates that. -/
def LogsIn (p : Principal) (new : Option SessionId) (t : List StoreExchange) : Prop :=
  ∃ id t₀ t₁, t = t₀ ++ ⟨.save ⟨id, some p⟩, .ok ()⟩ :: t₁ ∧ Rotates id new t₁

theorem complete_along {a : Authentication Calls}
    (hbinder : a.binder = .perSession StoreCall.store)
    (hstrategy : a.strategy = .changeId StoreCall.store)
    (hsuccess : ∀ ctx p, ∃ ctx', a.rememberMe.loginSuccess ctx p = pure ctx' ∧
      ctx'.sessionId = ctx.sessionId)
    (hfail : ∀ ctx, ∃ ctx', a.rememberMe.loginFail ctx = pure ctx') (ctx : RequestContext)
    (p : Principal) :
    (a.complete ctx p).Along (OwnCalls ctx) Fair
      (fun r t => ∀ p', r.2 = .ok p' → LogsIn p' r.1.sessionId t) [] := by
  have hbind : (a.bind ctx p).Along (OwnCalls ctx) Fair
      (fun r t => (∀ id, r.1.sessionId = some id → Owns ctx t id) ∧
        (r.2 = .ok () → LogsIn p r.1.sessionId t)) [] := by
    rw [Authentication.bind, hbinder, hstrategy]
    refine (binder_along (fun id hid => .inl hid) p).bind fun r t hr => ?_
    obtain ⟨ctx₁, e | _⟩ := r
    · exact .done ⟨hr.1, fun hok => by cases hok⟩
    obtain ⟨id, t₀, hid, rfl⟩ := hr.2 rfl
    -- What the strategy rotates is the session that was just saved.
    refine (changeId_along hid (hr.1 id hid)).bind fun r t hr => ?_
    obtain ⟨ctx₂, result⟩ := r
    refine .done ⟨hr.1, fun hok => ?_⟩
    cases result with
    | error e => cases hok
    | ok _ =>
      obtain ⟨t₁, rfl, hrotates⟩ := hr.2 rfl
      exact ⟨id, t₀, t₁, List.append_assoc .., hrotates⟩
  rw [Authentication.complete]
  refine hbind.bind fun r t hr => ?_
  obtain ⟨ctx₁, f | _⟩ := r
  · -- A login that fails makes the calls of an unbinding and is told of.
    rw [hbinder]
    refine (unbind_along hr.1).bind fun r t _ => ?_
    obtain ⟨ctx₂, result⟩ := r
    obtain ⟨ctx₃, hctx₃⟩ := hfail ctx₂
    simp only [Authentication.fail, hctx₃]
    exact .done fun _ hp => by cases hp
  · obtain ⟨ctx₂, hctx₂, hid⟩ := hsuccess ctx₁ p
    simp only [hctx₂]
    refine .done fun p' hp' => ?_
    rw [← Except.ok.inj hp', hid]
    exact hr.2 rfl

/-- The calls of a login. If it returns a principal, the last of them save that principal in a
session and rotate the session. -/
theorem login_along {c : LoginCommand Calls} (hc : SharesStore c) (ctx : RequestContext)
    (username password : String) :
    (c.login ctx username password).Along (OwnCalls ctx) Fair
      (fun r t => ∀ p, r.2 = .ok p → LogsIn p r.1.sessionId t) [] := by
  obtain ⟨handlers, hstarted⟩ := hc.started
  rw [LoginCommand.login, hstarted]
  have hrun : ((c.authentication ⟨handlers, .perSession StoreCall.store⟩).run ctx username
      password).Along (OwnCalls ctx) Fair
      (fun r t => ∀ p, r.2 = .ok p → LogsIn p r.1.sessionId t) [] := by
    obtain ⟨ctx', hctx'⟩ := hc.loginFail ctx
    have hfails (f : LoginFailure) : ((c.authentication ⟨handlers,
        .perSession StoreCall.store⟩).fail ctx f).Along (OwnCalls ctx) Fair
        (fun r t => ∀ p, r.2 = .ok p → LogsIn p r.1.sessionId t) [] := by
      simp only [Authentication.fail, LoginCommand.authentication, hctx']
      exact .done fun _ hp => by cases hp
    rw [Authentication.run]
    split
    · exact hfails _
    · rename_i credential _
      obtain ⟨r, hr⟩ := hc.verifier credential
      simp only [LoginCommand.authentication, hr]
      cases r with
      | error e => exact hfails _
      | ok identity => exact complete_along rfl hc.strategy hc.loginSuccess hc.loginFail ctx _
  refine hrun.bind fun r t hr => .done fun p hp => ?_
  obtain ⟨ctx', result⟩ := r
  cases result with
  | error f => cases hp
  | ok p' => exact hr p (congrArg _ (Except.ok.inj hp))

end WebLogin
