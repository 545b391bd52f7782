/-
Which cookies a logout removes.

The handlers of a logout queue removals of cookies and nothing else, and a removal that one of them
has queued is there at the end, whatever the others do.

* `LogoutSequence.CleansUp.clears`, `clears_of_mem` — what handlers leave queued;
* `Deployment.clears_of_cleansUp` — what the handlers of a service leave queued.
-/
import WebLogin.Proofs.Login.Scoping
import WebLogin.Proofs.Logout.Chain
import WebLogin.Proofs.Startup

namespace WebLogin

variable {σ ε : Type} {s s' : σ} {ctx ctx' ctx'' : RequestContext} {gone gone' : List String}

/-- From one context to the other, only removals have been queued, and those of the given names
are. -/
structure RequestContext.Clears (names : List String) (ctx ctx' : RequestContext) : Prop where
  onlyRemovals : ctx.OnlyRemovals → ctx'.OnlyRemovals
  queued : ∀ {name}, (name ∈ names ∨ ∃ c ∈ ctx.responseCookies, c.name = name) →
    ∃ c ∈ ctx'.responseCookies, c.name = name

namespace RequestContext

theorem Clears.refl (ctx : RequestContext) : Clears [] ctx ctx where
  onlyRemovals h := h
  queued h := h.resolve_left List.not_mem_nil

theorem Clears.trans (h : Clears gone ctx ctx') (h' : Clears gone' ctx' ctx'') :
    Clears (gone ++ gone') ctx ctx'' where
  onlyRemovals hctx := h'.onlyRemovals (h.onlyRemovals hctx)
  queued := by
    rintro name (hname | hqueued)
    · rcases List.mem_append.1 hname with hname | hname
      · exact h'.queued (.inr (h.queued (.inl hname)))
      · exact h'.queued (.inl hname)
    · exact h'.queued (.inr (h.queued (.inr hqueued)))

/-- Unbinding is no matter of cookies. -/
theorem Clears.unbind (h : Clears gone ctx ctx') : Clears gone ctx ctx'.unbindPrincipal :=
  ⟨h.onlyRemovals, h.queued⟩

theorem clears_add (ctx : RequestContext) (name : String) :
    Clears [name] ctx (ctx.addResponseCookie (.removal name)) where
  onlyRemovals h := h.add name
  queued := by
    intro name' hname
    by_cases heq : name' = name
    · exact ⟨.removal name, List.mem_append_right _ List.mem_cons_self, heq.symm⟩
    · rcases hname with hname | ⟨c, hc, rfl⟩
      · exact absurd (List.mem_singleton.1 hname) heq
      · exact ⟨c, List.mem_append_left _ (List.mem_filter.2 ⟨hc, bne_iff_ne.2 heq⟩), rfl⟩

theorem clears_foldl (names : List String) (ctx : RequestContext) :
    Clears names ctx (names.foldl (fun ctx name => ctx.addResponseCookie (.removal name)) ctx) := by
  induction names generalizing ctx with
  | nil => exact .refl ctx
  | cons name names ih => exact (clears_add ctx name).trans (ih _)

end RequestContext

open RequestContext (Clears)

/-- Whenever the handler is run, it queues removals of the given names and nothing else. -/
def LogoutHandler.Clears (names : List String) (h : LogoutHandler (StateT σ (Except ε))) : Prop :=
  ∀ {ctx p s ctx' r s'}, Yields (h.cleanup ctx p) s (ctx', r) s' →
    RequestContext.Clears names ctx ctx'

namespace LogoutHandler

variable {store : SessionStore (StateT σ (Except ε))}

theorem clears_securityContext (ends : Bool) :
    (securityContext (some store) ends).Clears [] := by
  intro ctx p s ctx' r s' hrun
  rw [securityContext] at hrun
  dsimp only at hrun
  split at hrun
  · obtain ⟨result, s₁, -, hrest⟩ := Yields.of_bind hrun
    obtain ⟨heq, -⟩ := hrest.eq (.pure _ _)
    obtain ⟨rfl, -⟩ := Prod.mk.inj heq
    exact ⟨fun h => h, fun h => h.resolve_left List.not_mem_nil⟩
  · obtain ⟨heq, -⟩ := hrun.eq (.pure _ _)
    obtain ⟨rfl, -⟩ := Prod.mk.inj heq
    exact .refl _

theorem clears_cookieClearing (names : List String) :
    (cookieClearing names : LogoutHandler (StateT σ (Except ε))).Clears names := by
  intro ctx p s ctx' r s' hrun
  obtain ⟨heq, -⟩ := hrun.eq (.pure _ _)
  obtain ⟨rfl, -⟩ := Prod.mk.inj heq
  exact RequestContext.clears_foldl names ctx

theorem clears_rememberMe (rc : RememberMeConfig) :
    (rc.handler : LogoutHandler (StateT σ (Except ε))).Clears [rc.cookieName] := by
  intro ctx p s ctx' r s' hrun
  obtain ⟨heq, -⟩ := hrun.eq (.pure _ _)
  obtain ⟨rfl, -⟩ := Prod.mk.inj heq
  exact RequestContext.clears_add ctx rc.cookieName

end LogoutHandler

namespace LogoutSequence

variable {p : Option Principal} {handlers : List (LogoutHandler (StateT σ (Except ε)))}
  {calls : List LoginCall}

theorem CleansUp.names (h : CleansUp p handlers ctx s calls ctx' s') :
    calls.filterMap LoginCall.handler? = handlers.map LogoutHandler.name := by
  induction h with
  | nil => rfl
  | cons _ _ ih => exact congrArg _ ih

/-- Handlers that only remove cookies do so one after the other. -/
theorem CleansUp.clears (h : CleansUp p handlers ctx s calls ctx' s')
    (hall : ∀ handler ∈ handlers, ∃ names, handler.Clears names) : Clears [] ctx ctx' := by
  induction h with
  | nil ctx s => exact .refl ctx
  | cons hcleanup _ ih =>
    obtain ⟨names, hfirst⟩ := hall _ List.mem_cons_self
    have hrest := ih fun handler hmem => hall handler (List.mem_cons_of_mem _ hmem)
    have hboth := (hfirst hcleanup).trans hrest
    exact ⟨hboth.onlyRemovals, fun h => hboth.queued (.inr (h.resolve_left List.not_mem_nil))⟩

/-- What one of them removes is removed at the end. -/
theorem CleansUp.clears_of_mem (h : CleansUp p handlers ctx s calls ctx' s')
    (hall : ∀ handler ∈ handlers, ∃ names, handler.Clears names)
    {handler : LogoutHandler (StateT σ (Except ε))} (hmem : handler ∈ handlers)
    (hclears : handler.Clears gone) : Clears gone ctx ctx' := by
  induction h with
  | nil ctx s => cases hmem
  | @cons first rest _ _ _ _ _ _ _ _ hcleanup hrest ih =>
    have hlater : ∀ handler ∈ rest, ∃ names, handler.Clears names :=
      fun handler hmem => hall handler (List.mem_cons_of_mem first hmem)
    rcases List.mem_cons.1 hmem with rfl | hmem
    · have hboth := (hclears hcleanup).trans (hrest.clears hlater)
      rwa [List.append_nil] at hboth
    · obtain ⟨names', hfirst⟩ := hall first List.mem_cons_self
      have hboth := (hfirst hcleanup).trans (ih hlater hmem)
      refine ⟨hboth.onlyRemovals, fun h => hboth.queued (h.imp_left ?_)⟩
      exact List.mem_append_right names'

end LogoutSequence

/-! ### The handlers of a service -/

/-- The cookies that a logout removes: the one of remember-me, and those that the settings list. -/
def Deployment.cleared (settings : Settings) : List String :=
  settings.rememberMe.cookieName :: settings.login.clearCookies

/-- Where logins are remembered, every cookie that is to be removed is queued for it. -/
theorem Deployment.clears_of_cleansUp {settings : Settings}
    {store : SessionStore (StateT σ (Except ε))} {p : Option Principal} {calls : List LoginCall}
    (henabled : settings.rememberMe.enabled = true)
    (h : LogoutSequence.CleansUp p (logoutHandlers settings store) ctx s calls ctx' s') :
    Clears (cleared settings) ctx ctx' := by
  have hall : ∀ handler ∈ logoutHandlers settings store, ∃ names, handler.Clears names :=
    forall_logoutHandlers (fun ends => ⟨[], LogoutHandler.clears_securityContext ends⟩)
      (fun rc => ⟨_, LogoutHandler.clears_rememberMe rc⟩)
      fun names => ⟨names, LogoutHandler.clears_cookieClearing names⟩
  have hremember : Clears [settings.rememberMe.cookieName] ctx ctx' :=
    h.clears_of_mem hall (by simp [logoutHandlers, henabled])
      (LogoutHandler.clears_rememberMe (rememberMeConfig settings))
  have hclearing : Clears settings.login.clearCookies ctx ctx' := by
    by_cases hempty : settings.login.clearCookies = []
    · rw [hempty]
      exact h.clears hall
    · exact h.clears_of_mem hall (by simp [logoutHandlers, hempty])
        (LogoutHandler.clears_cookieClearing settings.login.clearCookies)
  refine ⟨hremember.onlyRemovals, ?_⟩
  rintro name (hname | hqueued)
  · rcases List.mem_cons.1 hname with rfl | hname
    · exact hremember.queued (.inl List.mem_cons_self)
    · exact hclearing.queued (.inl hname)
  · exact hremember.queued (.inr hqueued)

end WebLogin
