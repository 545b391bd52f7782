/-
What a login or a logout asks of others, call by call.

The code of a login does not know who takes part in it, so it can be run with collaborators that do
what they always do and also write down that they were called, with what they were given and what
they answered. `Makes` puts a run beside that of its recorded twin: both end with the same value,
and the twin has written down these calls.

* `Makes.bind`, `Makes.record` — how the calls of a run are put together;
* `Tells.bind`, `Tells.ask` — the same for what is known of the calls, wherever a run starts;
* `StoreOutcome` — what calls of the store lead to;
* `SessionBinder.bind_tells`, `SessionBinder.unbind_tells` — binding and unbinding ask the store
  only, whatever it answers, and what they leave in the context.
-/
import WebLogin.Login.Command
import WebLogin.Proofs.Session.Steps

namespace WebLogin

variable {σ ε α β : Type} {s s' s'' : σ} {inv : σ → Prop}

/-- A call of a collaborator, with what it was given and what it answered. -/
inductive LoginCall where
  | create (answer : Except StoreError Session)
  | get (id : SessionId) (answer : Except StoreError (Option Session))
  | save (session : Session) (answer : Except StoreError Unit)
  | invalidate (id : SessionId) (answer : Except StoreError Unit)
  | verify (credential : Credential) (answer : Except VerificationError VerifiedIdentity)
  | onAuthentication (ctx : RequestContext) (p : Principal) (answer : Step StrategyError Unit)
  | autoLogin (ctx : RequestContext) (answer : RequestContext × Option Principal)
  | loginSuccess (ctx : RequestContext) (p : Principal) (answer : RequestContext)
  | loginFail (ctx answer : RequestContext)
  | cleanup (name : String) (ctx : RequestContext) (p : Option Principal)
      (answer : Step HandlerError Unit)

namespace LoginCall

/-- Whether the store was called. -/
def isStore : LoginCall → Bool
  | create _ | get _ _ | save _ _ | invalidate _ _ => true
  | _ => false

/-- The error of a call of the store that failed. -/
def error? : LoginCall → Option StoreError
  | create (.error e) => some e
  | get _ (.error e) => some e
  | save _ (.error e) => some e
  | invalidate _ (.error e) => some e
  | _ => none

end LoginCall

/-- Computations during which calls are written down. -/
abbrev Recording (σ ε : Type) := StateT (σ × List LoginCall) (Except ε)

/-- A call that is written down together with its answer. -/
def record (call : α → LoginCall) (x : StateT σ (Except ε) α) : Recording σ ε α := fun w =>
  (x.run w.1).map fun r => (r.1, r.2, w.2 ++ [call r.1])

/-- A computation that is not written down. -/
def unrecorded (x : StateT σ (Except ε) α) : Recording σ ε α := fun w =>
  (x.run w.1).map fun r => (r.1, r.2, w.2)

/-! ### Collaborators that are recorded -/

def SessionStore.recorded (store : SessionStore (StateT σ (Except ε))) :
    SessionStore (Recording σ ε) where
  create := record .create store.create
  get id := record (.get id) (store.get id)
  save x := record (.save x) (store.save x)
  invalidate id := record (.invalidate id) (store.invalidate id)

def SessionBinder.recorded :
    SessionBinder (StateT σ (Except ε)) → SessionBinder (Recording σ ε)
  | .perSession store => .perSession store.recorded
  | .perClient => .perClient

def SessionStrategy.recorded (strategy : SessionStrategy (StateT σ (Except ε))) :
    SessionStrategy (Recording σ ε) where
  onAuthentication ctx p := record (.onAuthentication ctx p) (strategy.onAuthentication ctx p)

def Verifier.recorded (verifier : Verifier (StateT σ (Except ε))) : Verifier (Recording σ ε) where
  verify credential := record (.verify credential) (verifier.verify credential)

def RememberMe.recorded (rm : RememberMe (StateT σ (Except ε))) : RememberMe (Recording σ ε) where
  autoLogin ctx := record (.autoLogin ctx) (rm.autoLogin ctx)
  loginSuccess ctx p := record (.loginSuccess ctx p) (rm.loginSuccess ctx p)
  loginFail ctx := record (.loginFail ctx) (rm.loginFail ctx)

def LogoutHandler.recorded (handler : LogoutHandler (StateT σ (Except ε))) :
    LogoutHandler (Recording σ ε) where
  name := handler.name
  cleanup ctx p := record (.cleanup handler.name ctx p) (handler.cleanup ctx p)

def LogoutSequence.recorded (seq : LogoutSequence (StateT σ (Except ε))) :
    LogoutSequence (Recording σ ε) where
  handlers := seq.handlers.map LogoutHandler.recorded
  binder := seq.binder.recorded

def LoginCommand.recorded (c : LoginCommand (StateT σ (Except ε))) :
    LoginCommand (Recording σ ε) where
  config :=
    { verifier := c.config.verifier.recorded
      store := c.config.store.map SessionStore.recorded
      strategy := c.config.strategy.recorded
      rememberMe := c.config.rememberMe.recorded
      handlers := c.config.handlers.map (List.map LogoutHandler.recorded)
      mode := c.config.mode
      invalidateSession := c.config.invalidateSession }
  started := c.started.map LogoutSequence.recorded

theorem LoginCommand.recorded_started {c : LoginCommand (StateT σ (Except ε))}
    {seq : LogoutSequence (StateT σ (Except ε))} (h : c.started = some seq) :
    c.recorded.started = some seq.recorded := by
  rw [recorded, h]
  rfl

def Authentication.recorded (a : Authentication (StateT σ (Except ε))) :
    Authentication (Recording σ ε) where
  verifier := a.verifier.recorded
  binder := a.binder.recorded
  strategy := a.strategy.recorded
  rememberMe := a.rememberMe.recorded

/-! ### Runs beside their recorded twins -/

/-- Started in one state, a computation ends in another one with a value, and its recorded twin,
which does the same, has made these calls. -/
structure Makes (x : StateT σ (Except ε) α) (y : Recording σ ε α) (s : σ) (calls : List LoginCall)
    (a : α) (s' : σ) : Prop where
  yields : Yields x s a s'
  recorded : ∀ log, Yields y (s, log) a (s', log ++ calls)

namespace Makes

variable {x : StateT σ (Except ε) α} {y : Recording σ ε α} {calls calls' : List LoginCall} {a : α}

theorem pure (a : α) (s : σ) :
    Makes (pure a : StateT σ (Except ε) α) (pure a : Recording σ ε α) s [] a s where
  yields := .pure a s
  recorded log := by
    rw [List.append_nil]
    exact .pure a (s, log)

theorem bind {f : α → StateT σ (Except ε) β} {g : α → Recording σ ε β} {b : β}
    (hx : Makes x y s calls a s') (hf : Makes (f a) (g a) s' calls' b s'') :
    Makes (x >>= f) (y >>= g) s (calls ++ calls') b s'' where
  yields := hx.yields.bind hf.yields
  recorded log := by
    rw [← List.append_assoc]
    exact (hx.recorded log).bind (hf.recorded _)

/-- What is left to do makes no calls. -/
theorem bind_pure {f : α → StateT σ (Except ε) β} {g : α → Recording σ ε β} {b : β}
    (hx : Makes x y s calls a s') (hf : f a = Pure.pure b) (hg : g a = Pure.pure b) :
    Makes (x >>= f) (y >>= g) s calls b s' := by
  rw [← List.append_nil calls]
  refine hx.bind ?_
  rw [hf, hg]
  exact .pure b s'

theorem record {call : α → LoginCall} (h : Yields x s a s') :
    Makes x (record call x) s [call a] a s' where
  yields := h
  recorded log := by
    have hrun : x.run s = .ok (a, s') := h
    show (x.run s).map _ = _
    rw [hrun]
    rfl

/-- What is not written down adds nothing to the calls. -/
theorem unrecorded (h : Yields x s a s') : Makes x (unrecorded x) s [] a s' where
  yields := h
  recorded log := by
    have hrun : x.run s = .ok (a, s') := h
    show (x.run s).map _ = _
    rw [hrun, List.append_nil]
    rfl

/-- What a run does and which calls it makes is determined by where it starts. -/
theorem eq {a' : α} (h : Makes x y s calls a s') (h' : Makes x y s calls' a' s'') :
    calls = calls' ∧ a = a' ∧ s' = s'' := by
  obtain ⟨ha, hs⟩ := h.yields.eq h'.yields
  have hlog := ((h.recorded []).eq (h'.recorded [])).2
  exact ⟨(Prod.mk.inj hlog).2, ha, hs⟩

end Makes

/-! ### Collaborators that answer -/

/-- A computation ends wherever it is started, and keeps an invariant. -/
def Responds (inv : σ → Prop) (x : StateT σ (Except ε) α) : Prop :=
  ∀ s, inv s → ∃ a s', Yields x s a s' ∧ inv s'

/-- A store that answers every call, in whatever way. -/
structure SessionStore.Responds (inv : σ → Prop) (store : SessionStore (StateT σ (Except ε))) :
    Prop where
  create : WebLogin.Responds inv store.create
  get : ∀ id, WebLogin.Responds inv (store.get id)
  save : ∀ x, WebLogin.Responds inv (store.save x)
  invalidate : ∀ id, WebLogin.Responds inv (store.invalidate id)

def SessionBinder.Responds (inv : σ → Prop) : SessionBinder (StateT σ (Except ε)) → Prop
  | .perSession store => store.Responds inv
  | .perClient => True

/-! ### What a computation tells -/

/-- The calls that are not to the store. -/
def hooks (calls : List LoginCall) : List LoginCall := calls.filter fun call => !call.isStore

theorem hooks_append (calls calls' : List LoginCall) :
    hooks (calls ++ calls') = hooks calls ++ hooks calls' := List.filter_append ..

theorem not_mem_of_hooks {calls : List LoginCall} {call : LoginCall} (h : hooks calls = [])
    (hcall : call.isStore = false) : call ∉ calls := by
  intro hmem
  have hhook : call ∈ hooks calls := List.mem_filter.2 ⟨hmem, by rw [hcall]; rfl⟩
  rw [h] at hhook
  cases hhook

/-- Wherever it is started, a computation ends beside its recorded twin and keeps an invariant; its
calls and its value satisfy a postcondition. -/
def Tells (inv : σ → Prop) (Q : List LoginCall → α → Prop) (x : StateT σ (Except ε) α)
    (y : Recording σ ε α) : Prop :=
  ∀ s, inv s → ∃ calls a s', Makes x y s calls a s' ∧ inv s' ∧ Q calls a

namespace Tells

variable {x : StateT σ (Except ε) α} {y : Recording σ ε α} {P Q : List LoginCall → α → Prop}
  {R : List LoginCall → β → Prop} {f : α → StateT σ (Except ε) β} {g : α → Recording σ ε β}

theorem pure {a : α} (h : Q [] a) :
    Tells inv Q (pure a : StateT σ (Except ε) α) (pure a : Recording σ ε α) := by
  intro s hs
  exact ⟨[], a, s, .pure a s, hs, h⟩

theorem mono (h : Tells inv P x y) (hPQ : ∀ calls a, P calls a → Q calls a) :
    Tells inv Q x y := by
  intro s hs
  obtain ⟨calls, a, s', hmakes, hs', hP⟩ := h s hs
  exact ⟨calls, a, s', hmakes, hs', hPQ calls a hP⟩

/-- What is told of a run is true of it. -/
theorem of_makes (h : Tells inv P x y) (hs : inv s) {calls : List LoginCall} {a : α}
    (hmakes : Makes x y s calls a s') : inv s' ∧ P calls a := by
  obtain ⟨calls', a', s'', hmakes', hs', hP⟩ := h s hs
  obtain ⟨rfl, rfl, rfl⟩ := hmakes.eq hmakes'
  exact ⟨hs', hP⟩

theorem bind (hx : Tells inv P x y)
    (hf : ∀ calls a, P calls a → Tells inv (fun calls' b => R (calls ++ calls') b) (f a) (g a)) :
    Tells inv R (x >>= f) (y >>= g) := by
  intro s hs
  obtain ⟨calls, a, s₁, hx, hs₁, hP⟩ := hx s hs
  obtain ⟨calls', b, s', hf, hs', hR⟩ := hf calls a hP s₁ hs₁
  exact ⟨calls ++ calls', b, s', hx.bind hf, hs', hR⟩

/-- A call comes first; what is known of its answer is that it can be given. -/
theorem ask {call : α → LoginCall} (hx : Responds inv x)
    (hf : ∀ a s s', Yields x s a s' →
      Tells inv (fun calls b => R (call a :: calls) b) (f a) (g a)) :
    Tells inv R (x >>= f) (record call x >>= g) := by
  intro s hs
  obtain ⟨a, s₁, hx, hs₁⟩ := hx s hs
  obtain ⟨calls, b, s', hf, hs', hR⟩ := hf a s s₁ hx s₁ hs₁
  exact ⟨call a :: calls, b, s', (Makes.record hx).bind hf, hs', hR⟩

theorem single {call : α → LoginCall} (hx : Responds inv x) (hQ : ∀ a, Q [call a] a) :
    Tells inv Q x (record call x) := by
  intro s hs
  obtain ⟨a, s', hx, hs'⟩ := hx s hs
  exact ⟨[call a], a, s', .record hx, hs', hQ a⟩

end Tells

/-! ### Restoring, binding and unbinding -/

/-- The cookies of a request are as they were, those that it brought and those that it queued. -/
structure RequestContext.SameCookies (ctx ctx' : RequestContext) : Prop where
  brought : ctx'.requestCookies = ctx.requestCookies
  queued : ctx'.responseCookies = ctx.responseCookies

theorem RequestContext.SameCookies.refl (ctx : RequestContext) : ctx.SameCookies ctx := ⟨rfl, rfl⟩

/-- What some calls of the store led to: a success if none of them failed, and otherwise the error
of the last one, which is the only one that failed. -/
inductive StoreOutcome : List LoginCall → Except StoreError α → Prop where
  | ok {calls : List LoginCall} {a : α} (only : hooks calls = [])
      (smooth : ∀ call ∈ calls, call.error? = none) : StoreOutcome calls (.ok a)
  | error {before : List LoginCall} {failing : LoginCall} {e : StoreError}
      (only : hooks (before ++ [failing]) = []) (smooth : ∀ call ∈ before, call.error? = none)
      (failed : failing.error? = some e) : StoreOutcome (before ++ [failing]) (.error e)

namespace StoreOutcome

variable {calls calls' : List LoginCall} {call : LoginCall} {a : α} {e : StoreError}
  {r : Except StoreError β}

theorem hooks_eq_nil {r : Except StoreError α} (h : StoreOutcome calls r) : hooks calls = [] := by
  cases h with
  | ok only _ => exact only
  | error only _ _ => exact only

theorem nil (a : α) : StoreOutcome [] (.ok a) := .ok rfl fun _ hcall => by cases hcall

theorem single_ok (hstore : call.isStore = true) (h : call.error? = none) (a : α) :
    StoreOutcome [call] (.ok a) := by
  refine .ok (by simp [hooks, hstore]) fun _ hcall => ?_
  rwa [List.mem_singleton.1 hcall]

theorem single_error (hstore : call.isStore = true) (h : call.error? = some e) :
    StoreOutcome [call] (.error e : Except StoreError α) := by
  have hsmooth : ∀ call ∈ ([] : List LoginCall), call.error? = none := fun _ hcall => by cases hcall
  show StoreOutcome ([] ++ [call]) _
  exact .error (by simp [hooks, hstore]) hsmooth h

/-- After a success it is up to what follows. -/
theorem append (h : StoreOutcome calls (.ok a)) (h' : StoreOutcome calls' r) :
    StoreOutcome (calls ++ calls') r := by
  have honly : hooks (calls ++ calls') = [] := by
    rw [hooks_append, h.hooks_eq_nil, h'.hooks_eq_nil, List.nil_append]
  cases h with
  | ok _ smooth =>
    cases h' with
    | ok _ smooth' =>
      exact .ok honly fun call hcall => (List.mem_append.1 hcall).elim (smooth call) (smooth' call)
    | error _ smooth' failed =>
      -- The call that failed is still the last one.
      rw [← List.append_assoc] at honly ⊢
      exact .error honly
        (fun call hcall => (List.mem_append.1 hcall).elim (smooth call) (smooth' call)) failed

/-- A failure that is passed on. -/
theorem pass (h : StoreOutcome calls (.error e : Except StoreError α)) :
    StoreOutcome (calls ++ []) (.error e : Except StoreError β) := by
  rw [List.append_nil]
  cases h with
  | error only smooth failed => exact .error only smooth failed

end StoreOutcome

/-- A single call of the store leads to what it was answered. -/
theorem Tells.outcome {call : Except StoreError α → LoginCall}
    {x : StateT σ (Except ε) (Except StoreError α)} (hx : Responds inv x)
    (hstore : ∀ r, (call r).isStore = true) (herror : ∀ e, (call (.error e)).error? = some e)
    (hok : ∀ a, (call (.ok a)).error? = none) : Tells inv StoreOutcome x (record call x) := by
  refine .single hx fun r => ?_
  cases r with
  | error e => exact .single_error (hstore _) (herror e)
  | ok a => exact .single_ok (hstore _) (hok a) a

namespace SessionStore

variable {store : SessionStore (StateT σ (Except ε))}

theorem get_outcome (h : store.Responds inv) (id : SessionId) :
    Tells inv StoreOutcome (store.get id) (store.recorded.get id) :=
  .outcome (h.get id) (fun _ => rfl) (fun _ => rfl) fun _ => rfl

theorem create_outcome (h : store.Responds inv) :
    Tells inv StoreOutcome store.create store.recorded.create :=
  .outcome h.create (fun _ => rfl) (fun _ => rfl) fun _ => rfl

theorem save_outcome (h : store.Responds inv) (x : Session) :
    Tells inv StoreOutcome (store.save x) (store.recorded.save x) :=
  .outcome (h.save x) (fun _ => rfl) (fun _ => rfl) fun _ => rfl

end SessionStore

namespace SessionBinder

variable {store : SessionStore (StateT σ (Except ε))} {b : SessionBinder (StateT σ (Except ε))}

/-- The calls that a binder may make: of its store only, and none if it has no store. -/
def Called : SessionBinder (StateT σ (Except ε)) → List LoginCall → Prop
  | .perSession _, calls => hooks calls = []
  | .perClient, calls => calls = []

theorem Called.hooks_eq_nil {calls : List LoginCall} (h : b.Called calls) : hooks calls = [] := by
  cases b with
  | perSession store => exact h
  | perClient =>
    obtain rfl : calls = [] := h
    rfl

theorem existing_tells (hstore : store.Responds inv) (ctx : RequestContext) :
    Tells inv StoreOutcome (existing store ctx) (existing store.recorded ctx) := by
  rw [existing, existing]
  cases ctx.sessionId with
  | none => exact .pure (.nil none)
  | some id => exact SessionStore.get_outcome hstore id

/-- Finding a session for a request asks the store only. -/
theorem sessionOf_tells (hstore : store.Responds inv) (ctx : RequestContext) :
    Tells inv (fun calls step => StoreOutcome calls step.2 ∧ ctx.SameCookies step.1)
      (sessionOf store ctx) (sessionOf store.recorded ctx) := by
  rw [sessionOf_eq, sessionOf_eq]
  refine (existing_tells hstore ctx).bind ?_
  intro calls found hfound
  rcases found with e | _ | x
  · exact .pure ⟨hfound.pass, .refl ctx⟩
  · refine (SessionStore.create_outcome hstore).bind ?_
    intro calls' made hmade
    cases made with
    | error e => exact .pure ⟨hfound.append hmade.pass, .refl ctx⟩
    | ok x => exact .pure ⟨hfound.append (hmade.append (.nil x)), rfl, rfl⟩
  · exact .pure ⟨hfound.append (.nil x), .refl ctx⟩

/-- Restoring asks the store only, and fails only with it. -/
theorem restore_tells (hb : b.Responds inv) (ctx : RequestContext) :
    Tells inv (fun calls step => StoreOutcome calls step.2 ∧ ctx.SameCookies step.1)
      (b.restore ctx) (b.recorded.restore ctx) := by
  cases b with
  | perClient => exact .pure ⟨.nil (), .refl ctx⟩
  | perSession store =>
    simp only [restore, recorded]
    cases ctx.sessionId with
    | none => exact .pure ⟨.nil (), .refl ctx⟩
    | some id =>
      refine (SessionStore.get_outcome hb id).bind ?_
      intro calls found hfound
      rcases found with e | _ | ⟨xid, p⟩
      · exact .pure ⟨hfound.pass, .refl ctx⟩
      · exact .pure ⟨hfound.append (.nil ()), rfl, rfl⟩
      · cases p with
        | none => exact .pure ⟨hfound.append (.nil ()), .refl ctx⟩
        | some p => exact .pure ⟨hfound.append (.nil ()), rfl, rfl⟩

/-- Binding asks the store only, and fails only with it. If it succeeds, the principal is bound to
the request. -/
theorem bind_tells (hb : b.Responds inv) (ctx : RequestContext) (p : Principal) :
    Tells inv (fun calls step => b.Called calls ∧ StoreOutcome calls step.2 ∧
        ctx.SameCookies step.1 ∧ (step.2 = .ok () → step.1.principal = some p))
      (b.bind ctx p) (b.recorded.bind ctx p) := by
  cases b with
  | perClient => exact .pure ⟨rfl, .nil (), ⟨rfl, rfl⟩, fun _ => rfl⟩
  | perSession store =>
    refine Tells.mono (P := fun calls step => StoreOutcome calls step.2 ∧
      ctx.SameCookies step.1 ∧ (step.2 = .ok () → step.1.principal = some p)) ?_
        fun calls step h => ⟨h.1.hooks_eq_nil, h⟩
    refine (sessionOf_tells hb ctx).bind ?_
    rintro calls ⟨ctx₁, found⟩ ⟨hfound, hsame⟩
    cases found with
    | error e => exact .pure ⟨hfound.pass, hsame, by simp⟩
    | ok x =>
      refine (SessionStore.save_outcome hb _).bind ?_
      intro calls' saved hsaved
      cases saved with
      | error e => exact .pure ⟨hfound.append hsaved.pass, hsame, by simp⟩
      | ok u =>
        exact .pure ⟨hfound.append (hsaved.append (.nil ())), ⟨hsame.brought, hsame.queued⟩,
          fun _ => rfl⟩

/-- Unbinding asks the store only. However it ends, nobody is bound to the request any more. -/
theorem unbind_tells (hb : b.Responds inv) (ctx : RequestContext) :
    Tells inv (fun calls step => b.Called calls ∧ step.1 = ctx.unbindPrincipal)
      (b.unbind ctx) (b.recorded.unbind ctx) := by
  cases b with
  | perClient => exact .pure ⟨rfl, rfl⟩
  | perSession store =>
    simp only [unbind, recorded, RequestContext.unbindPrincipal]
    cases ctx.sessionId with
    | none => exact .pure ⟨rfl, rfl⟩
    | some id =>
      refine .ask (hb.get id) ?_
      intro found _ _ _
      rcases found with e | _ | x
      · exact .pure ⟨rfl, rfl⟩
      · exact .pure ⟨rfl, rfl⟩
      · dsimp only
        split
        · refine .ask (hb.save _) ?_
          intro saved _ _ _
          cases saved with
          | error e => exact .pure ⟨rfl, rfl⟩
          | ok u => exact .pure ⟨rfl, rfl⟩
        · exact .pure ⟨rfl, rfl⟩

end SessionBinder

end WebLogin
