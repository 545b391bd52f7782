/-
The calls that giving a request its scope makes.

A scope asks the store for the session of the request. If nobody is in it, remember-me is asked,
and whoever is remembered is bound, which asks the store again. Any of these calls may fail, and
then there is no scope.

* `Faithful` — something that succeeds exactly if none of its store calls failed, and that calls no
  handler of a logout;
* `Faithful.of_outcome` — restoring and binding, which ask the store only, are of that kind;
* `LoginCommand.scope_tells` — the whole scope, and what it leaves queued.
-/
import WebLogin.Proofs.Login.Calls
import WebLogin.RememberMe.Service

namespace WebLogin

variable {σ ε α β δ η : Type} {inv : σ → Prop} {calls calls' : List LoginCall}

/-- The name of the logout handler that was called. -/
def LoginCall.handler? : LoginCall → Option String
  | cleanup name _ _ _ => some name
  | _ => none

/-- Where only the store was called, no handler was. -/
theorem handlers_of_hooks (h : hooks calls = []) : ∀ call ∈ calls, call.handler? = none := by
  intro call hcall
  cases call with
  | cleanup => exact absurd hcall (not_mem_of_hooks h rfl)
  | _ => rfl

/-- The result is a success exactly if none of the calls of the store failed. No handler of a logout
was called. -/
structure Faithful (calls : List LoginCall) (r : Except δ α) : Prop where
  isOk_iff : r.isOk = true ↔ ∀ call ∈ calls, call.error? = none
  handlers : ∀ call ∈ calls, call.handler? = none

namespace Faithful

theorem single {call : LoginCall} {r : Except δ α} (herror : r.isOk = true ↔ call.error? = none)
    (hhandler : call.handler? = none) : Faithful [call] r where
  isOk_iff := by rw [List.forall_mem_singleton, herror]
  handlers := by rwa [List.forall_mem_singleton]

theorem nil (a : α) : Faithful [] (.ok a : Except δ α) where
  isOk_iff := iff_of_true rfl fun _ hcall => by cases hcall
  handlers _ hcall := by cases hcall

/-- After a success it is up to what follows. -/
theorem append {a : α} {r : Except η β} (h : Faithful calls (.ok a : Except δ α))
    (h' : Faithful calls' r) : Faithful (calls ++ calls') r where
  isOk_iff := by
    rw [h'.isOk_iff]
    constructor
    · intro hcalls call hcall
      exact (List.mem_append.1 hcall).elim (h.isOk_iff.1 rfl call) (hcalls call)
    · exact fun hcalls call hcall => hcalls call (List.mem_append_right calls hcall)
  handlers call hcall := (List.mem_append.1 hcall).elim (h.handlers call) (h'.handlers call)

/-- A failure that is passed on. -/
theorem error {e : δ} {e' : η} (h : Faithful calls (.error e : Except δ α)) :
    Faithful (calls ++ []) (.error e' : Except η β) := by
  rw [List.append_nil]
  exact ⟨h.isOk_iff, h.handlers⟩

/-- The calls of a store that led to a result. -/
theorem of_outcome {r : Except StoreError α} (h : StoreOutcome calls r) : Faithful calls r where
  isOk_iff := by
    cases h with
    | ok _ smooth => exact iff_of_true rfl smooth
    | @error before failing e _ _ failed =>
      refine iff_of_false Bool.false_ne_true fun hnone => ?_
      cases (hnone failing (List.mem_append_right _ (List.mem_singleton_self _))).symm.trans failed
  handlers := handlers_of_hooks h.hooks_eq_nil

theorem mapError (f : δ → η) {r : Except δ α} (h : Faithful calls r) :
    Faithful calls (r.mapError f) := by
  refine ⟨?_, h.handlers⟩
  rw [← h.isOk_iff]
  cases r <;> rfl

end Faithful

/-! ### The whole scope -/

/-- Nothing is queued but removals of cookies. -/
def RequestContext.OnlyRemovals (ctx : RequestContext) : Prop :=
  ∀ c ∈ ctx.responseCookies, c.isRemoval = true

namespace RequestContext

variable {ctx ctx' : RequestContext}

theorem SameCookies.onlyRemovals (h : ctx.SameCookies ctx') (hctx : ctx.OnlyRemovals) :
    ctx'.OnlyRemovals := by
  rw [OnlyRemovals, h.queued]
  exact hctx

theorem OnlyRemovals.add (h : ctx.OnlyRemovals) (name : String) :
    (ctx.addResponseCookie (.removal name)).OnlyRemovals := by
  intro c hc
  rcases List.mem_append.1 hc with hc | hc
  · exact h c (List.mem_filter.1 hc).1
  · rw [List.mem_singleton.1 hc]
    rfl

/-- Remembering queues the removal of a token that was not accepted, if anything. -/
theorem OnlyRemovals.autoLogin (h : ctx.OnlyRemovals) (rc : RememberMeConfig) (now : Timestamp) :
    (rc.autoLogin now ctx).1.OnlyRemovals := by
  rw [RememberMeConfig.autoLogin]
  split
  · exact h
  · split
    · exact h
    · exact h.add rc.cookieName

end RequestContext

namespace LoginCommand

variable {c : LoginCommand (StateT σ (Except ε))} {seq : LogoutSequence (StateT σ (Except ε))}
  {rc : RememberMeConfig} {clock : StateT σ (Except ε) Timestamp}

theorem autoLogin_faithful (hclock : Responds inv clock) {ctx : RequestContext}
    (hctx : ctx.OnlyRemovals) :
    Tells inv (fun calls r => Faithful calls (.ok r : Except StoreError _) ∧ r.1.OnlyRemovals)
      ((rc.service clock).autoLogin ctx) ((rc.service clock).recorded.autoLogin ctx) := by
  have hresponds : ∀ s, inv s → ∃ now s',
      Yields ((rc.service clock).autoLogin ctx) s (rc.autoLogin now ctx) s' ∧ inv s' := by
    intro s hs
    obtain ⟨now, s', hnow, hs'⟩ := hclock s hs
    exact ⟨now, s', hnow.bind (.pure _ _), hs'⟩
  intro s hs
  obtain ⟨now, s', hauto, hs'⟩ := hresponds s hs
  exact ⟨_, _, s', .record hauto, hs', .single (by simp [LoginCall.error?, Except.isOk,
    Except.toBool]) rfl, hctx.autoLogin rc now⟩

/-- A request gets its scope exactly if no call of the store fails. Nothing is queued for it but the
removal of a token that was not accepted. -/
theorem scope_tells (hc : c.started = some seq) (hb : seq.binder.Responds inv)
    (hrm : c.config.rememberMe = rc.service clock) (hclock : Responds inv clock)
    {ctx : RequestContext} (hctx : ctx.OnlyRemovals) :
    Tells inv (fun calls step => Faithful calls step.2 ∧ step.1.OnlyRemovals) (c.scope ctx)
      (c.recorded.scope ctx) := by
  have hrecorded : c.recorded.config.rememberMe = (rc.service clock).recorded := by
    rw [← hrm]
    rfl
  rw [scope, scope, hc, recorded_started hc]
  refine (SessionBinder.restore_tells hb ctx).bind ?_
  rintro calls ⟨ctx₁, restored⟩ ⟨houtcome, hsame⟩
  have hfaithful := Faithful.of_outcome houtcome
  have hctx₁ : ctx₁.OnlyRemovals := hsame.onlyRemovals hctx
  cases restored with
  | error e => exact .pure ⟨hfaithful.error, hctx₁⟩
  | ok u =>
    dsimp only
    split
    · exact .pure ⟨hfaithful.append (.nil ()), hctx₁⟩
    · rw [hrm, hrecorded]
      refine (autoLogin_faithful hclock hctx₁).bind ?_
      rintro calls' ⟨ctx₂, remembered⟩ ⟨hfaithful', hctx₂⟩
      cases remembered with
      | none => exact .pure ⟨hfaithful.append (hfaithful'.append (.nil ())), hctx₂⟩
      | some p =>
        refine (SessionBinder.bind_tells hb ctx₂ p).bind ?_
        rintro calls'' ⟨ctx₃, bound⟩ ⟨-, houtcome'', hsame', -⟩
        have hfaithful'' := Faithful.of_outcome houtcome''
        refine .pure ⟨?_, hsame'.onlyRemovals hctx₂⟩
        rw [List.append_nil]
        exact hfaithful.append (hfaithful'.append (hfaithful''.mapError ScopeError.store))

end LoginCommand

end WebLogin
