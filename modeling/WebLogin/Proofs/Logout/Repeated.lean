/-
Logging out twice.

A logout that was carried out leaves nothing for a second one to do. The handlers queue the same
removals again, each of which takes the place of the one before, so the queue ends as it was; the
session is gone from the request, or nobody is in it any more.

* `RequestContext.forgetting_idem` — cookies that are removed twice;
* `SessionBinder.unbind_serves` — a principal that is taken twice;
* `LogoutSequence.runHandlers_cleans` — what handlers do together;
* `LoginCommand.logout_again` — a second logout.
-/
import WebLogin.Login.Command
import WebLogin.Proofs.Session.Steps
import WebLogin.Proofs.Store.World
import WebLogin.RememberMe.Service

namespace WebLogin

variable {σ τ ε : Type} {M : StoreModel σ τ} {store : SessionStore (StateT σ (Except ε))}
  {k : Nat} {s : σ}

/-! ### What a store is relied on for -/

/-- A store none of whose calls fails while the clock stands still. Looking a session up changes
nothing that can be read. A session that can be read can be saved, and then reads as it was
written, unless it has lapsed at once. -/
structure StoreModel.Serves (M : StoreModel σ τ) (store : SessionStore (StateT σ (Except ε))) :
    Prop where
  id_eq : ∀ {k s id x}, M.valid k s → M.session? s id = some x → x.id = id
  get : ∀ {k s} id, M.valid k s →
    ∃ s', Yields (store.get id) s (.ok (M.session? s id)) s' ∧ M.Same k s s'
  save : ∀ {k s x}, M.valid k s → (M.session? s x.id).isSome →
    ∃ s', Yields (store.save x) s (.ok ()) s' ∧ M.valid k s' ∧
      ∀ y, M.session? s' x.id = some y → y = x
  invalidate : ∀ {k s} id, M.valid k s →
    ∃ s', Yields (store.invalidate id) s (.ok ()) s' ∧ M.valid k s'

/-- The store of a world is such a store, however short its sessions live. -/
theorem World.serves {α : Type} {ids : Nat → SessionId} {most ttl : Nat} {now : Uptime}
    {outside : α} (hclock : now / 1000 + ttl ≤ Uptime.lastSecond) :
    (model ids most ttl now outside).Serves (sessionStore ids) where
  id_eq {k w id x} hw hx := by
    rw [model_session?] at hx
    obtain ⟨e, he, rfl⟩ := Option.map_eq_some_iff.1 hx
    exact hw.1.store.id_eq id e (MemoryStore.live_eq_some_iff.1 he).1
  get id hw := get_yields id hw
  save {k w x} hw hx := by
    obtain ⟨hrun, hvalid⟩ := save_inserts hclock hw hx
    refine ⟨_, hrun, hvalid, fun y hy => ?_⟩
    rw [model_session?] at hy
    obtain ⟨e, he, rfl⟩ := Option.map_eq_some_iff.1 hy
    have hfind := (MemoryStore.live_eq_some_iff.1 he).1
    rw [MemoryStore.find?_insert, if_pos rfl] at hfind
    rw [← Option.some.inj hfind]
  invalidate id hw := by
    obtain ⟨w', hrun, hwrites⟩ := invalidate_yields id hw
    exact ⟨w', hrun, hwrites.valid⟩

/-- Taking the principal from a request and its session leaves nobody in the session, and changes
nothing where nobody was in it. -/
theorem SessionBinder.unbind_serves (h : M.Serves store) (hs : M.valid k s)
    (ctx : RequestContext) :
    ∃ s', Yields ((perSession store).unbind ctx) s (ctx.unbindPrincipal, .ok ctx.principal) s' ∧
      M.valid k s' ∧ ctx.sessionId.bind (M.holder s') = none ∧
      (ctx.sessionId.bind (M.holder s) = none → M.Same k s s') := by
  cases hid : ctx.sessionId with
  | none =>
    refine ⟨s, ?_, hs, rfl, fun _ => .refl hs⟩
    simp only [unbind, RequestContext.unbindPrincipal, hid]
    exact .pure _ _
  | some id =>
    obtain ⟨s₁, hget, hsame⟩ := h.get id hs
    simp only [unbind, RequestContext.unbindPrincipal, hid, Option.bind_some]
    cases hx : M.session? s id with
    | none =>
      rw [hx] at hget
      refine ⟨s₁, hget.bind (.pure _ _), hsame.valid, ?_, fun _ => hsame⟩
      rw [hsame.holder, StoreModel.holder, hx, Option.bind_none]
    | some x =>
      rw [hx] at hget
      have hholder : M.holder s id = x.principal := by
        rw [StoreModel.holder, hx, Option.bind_some]
      by_cases hp : x.principal.isSome = true
      · -- The session is saved without the principal, and reads like that or not at all.
        have hxid : x.id = id := h.id_eq hs hx
        obtain ⟨s', hsave, hvalid, hreads⟩ := h.save hsame.valid (x := { x with principal := none })
          (by rw [hsame.session?, hxid, hx]; rfl)
        refine ⟨s', hget.bind ?_, hvalid, ?_, fun hnobody => ?_⟩
        · simp only [hp, if_true]
          exact hsave.bind (.pure _ _)
        · rw [StoreModel.holder, Option.bind_eq_none_iff]
          intro y hy
          rw [hreads y (hxid.symm ▸ hy)]
        · rw [hholder] at hnobody
          rw [hnobody] at hp
          cases hp
      · refine ⟨s₁, hget.bind ?_, hsame.valid, ?_, fun _ => hsame⟩
        · simp only [hp]
          exact .pure _ _
        · rw [hsame.holder, hholder]
          exact Option.not_isSome_iff_eq_none.1 hp

/-! ### Cookies that are removed twice -/

namespace RequestContext

/-- The request after the removal of some cookies was queued, one after the other. -/
def forgetting (ctx : RequestContext) (names : List String) : RequestContext :=
  names.foldl (fun ctx name => ctx.addResponseCookie (.removal name)) ctx

/-- The removals that are queued for some names: one for each of them, at its last place. -/
def removals (names : List String) : List ResponseCookie := (empty.forgetting names).responseCookies

theorem forgetting_cons (ctx : RequestContext) (name : String) (names : List String) :
    ctx.forgetting (name :: names) = (ctx.addResponseCookie (.removal name)).forgetting names := rfl

/-- What was queued under other names stays in front, in its order. -/
theorem forgetting_eq (ctx : RequestContext) (names : List String) :
    ctx.forgetting names = { ctx with
      responseCookies :=
        ctx.responseCookies.filter (fun c => !names.contains c.name) ++ removals names } := by
  induction names generalizing ctx with
  | nil =>
    have hall : ctx.responseCookies.filter (fun c => !([] : List String).contains c.name) =
        ctx.responseCookies := List.filter_eq_self.2 fun _ _ => rfl
    rw [hall]
    exact congrArg (fun q => { ctx with responseCookies := q }) (List.append_nil _).symm
  | cons name names ih =>
    -- The removal of the first name goes the way of all that stood before the other names.
    have hfirst : removals (name :: names) =
        [ResponseCookie.removal name].filter (fun c => !names.contains c.name) ++
          removals names := by
      rw [removals, forgetting_cons, ih]
      rfl
    have hothers : ctx.responseCookies.filter (fun c => !(name :: names).contains c.name) =
        (ctx.responseCookies.filter fun c => c.name != name).filter
          (fun c => !names.contains c.name) := by
      rw [List.filter_filter]
      refine List.filter_congr fun c _ => ?_
      rw [List.contains_cons, Bool.not_or, Bool.and_comm]
      rfl
    rw [forgetting_cons, ih, hfirst, hothers, ← List.append_assoc, ← List.filter_append]
    rfl

theorem name_mem_of_mem_removals {names : List String} {c : ResponseCookie}
    (h : c ∈ removals names) : c.name ∈ names := by
  induction names with
  | nil => cases h
  | cons name names ih =>
    rw [removals, forgetting_cons, forgetting_eq] at h
    rcases List.mem_append.1 h with h | h
    · obtain rfl := List.mem_singleton.1 (List.mem_filter.1 h).1
      exact List.mem_cons_self
    · exact List.mem_cons_of_mem name (ih h)

theorem forgetting_append (ctx : RequestContext) (names names' : List String) :
    ctx.forgetting (names ++ names') = (ctx.forgetting names).forgetting names' :=
  List.foldl_append ..

/-- Removing the same cookies again changes nothing, not even the order of the queue. -/
theorem forgetting_idem (ctx : RequestContext) (names : List String) :
    (ctx.forgetting names).forgetting names = ctx.forgetting names := by
  have hnone : (removals names).filter (fun c => !names.contains c.name) = [] := by
    rw [List.filter_eq_nil_iff]
    intro c hc
    rw [List.contains_iff_mem.2 (name_mem_of_mem_removals hc)]
    decide
  have hsame : (ctx.forgetting names).responseCookies.filter (fun c => !names.contains c.name) =
      ctx.responseCookies.filter fun c => !names.contains c.name := by
    rw [forgetting_eq]
    dsimp only
    rw [List.filter_append, hnone, List.append_nil, List.filter_filter]
    simp only [Bool.and_self]
  rw [forgetting_eq (ctx.forgetting names), hsame, forgetting_eq ctx]

/-- A name that is removed twice stands where it was removed last. -/
example : (removals ["a", "b", "a"]).map ResponseCookie.name = ["b", "a"] := by decide

/-- Removing cookies is no matter of sessions and principals. -/
theorem forgetting_withSession (ctx : RequestContext) (names : List String)
    (id : Option SessionId) :
    (ctx.withSession id).forgetting names = (ctx.forgetting names).withSession id := by
  rw [forgetting_eq, forgetting_eq ctx]
  rfl

theorem forgetting_unbindPrincipal (ctx : RequestContext) (names : List String) :
    ctx.unbindPrincipal.forgetting names = (ctx.forgetting names).unbindPrincipal := by
  rw [forgetting_eq, forgetting_eq ctx]
  rfl

theorem sessionId_forgetting (ctx : RequestContext) (names : List String) :
    (ctx.forgetting names).sessionId = ctx.sessionId := by
  rw [forgetting_eq]

/-- The request after a clean-up: removals of some cookies are queued, and it has lost its session
if that was ended. -/
def cleaned (ctx : RequestContext) (names : List String) (ends : Bool) : RequestContext :=
  (ctx.forgetting names).withSession (if ends then none else ctx.sessionId)

theorem sessionId_cleaned (ctx : RequestContext) (names : List String) (ends : Bool) :
    (ctx.cleaned names ends).sessionId = if ends then none else ctx.sessionId := rfl

theorem cleaned_cleaned (ctx : RequestContext) (names names' : List String) (ends ends' : Bool) :
    (ctx.cleaned names ends).cleaned names' ends' =
      ctx.cleaned (names ++ names') (ends || ends') := by
  rw [cleaned, sessionId_cleaned, cleaned, forgetting_withSession, cleaned, forgetting_append]
  cases ends <;> cases ends' <;> rfl

/-- A request that was cleaned up and logged out is not changed by the same clean-up. -/
theorem cleaned_again (ctx : RequestContext) (names : List String) (ends : Bool) :
    (ctx.cleaned names ends).unbindPrincipal.cleaned names ends =
      (ctx.cleaned names ends).unbindPrincipal := by
  have hsession : (if ends then none else (ctx.cleaned names ends).unbindPrincipal.sessionId) =
      if ends then none else ctx.sessionId := by
    cases ends <;> rfl
  rw [cleaned, hsession, forgetting_unbindPrincipal, cleaned, forgetting_withSession,
    forgetting_idem]
  rfl

end RequestContext

/-! ### Handlers that run twice -/

/-- A handler that does not fail, and does nothing but clean up: it queues removals of the given
names, and perhaps ends the session. Without a session to end it leaves the sessions alone. -/
def LogoutHandler.Cleans (M : StoreModel σ τ) (names : List String) (ends : Bool)
    (handler : LogoutHandler (StateT σ (Except ε))) : Prop :=
  ∀ {k s} ctx p, M.valid k s →
    ∃ s', Yields (handler.cleanup ctx p) s (ctx.cleaned names ends, .ok ()) s' ∧ M.valid k s' ∧
      ((ends = true → ctx.sessionId = none) → s' = s)

namespace LogoutHandler

/-- The handlers that there are, over one store: with that store or none, whether sessions are to be
ended or not, and for any cookies. -/
inductive Usual (store : SessionStore (StateT σ (Except ε))) :
    LogoutHandler (StateT σ (Except ε)) → Prop where
  | securityContext {given : Option (SessionStore (StateT σ (Except ε)))} (ends : Bool) :
      (∀ st, given = some st → st = store) → Usual store (.securityContext given ends)
  | rememberMe (rc : RememberMeConfig) : Usual store rc.handler
  | cookieClearing (names : List String) : Usual store (.cookieClearing names)

theorem cleans_securityContext (h : M.Serves store)
    {given : Option (SessionStore (StateT σ (Except ε)))}
    (hgiven : ∀ st, given = some st → st = store) (ends : Bool) :
    (securityContext given ends).Cleans M [] (ends && given.isSome) := by
  intro k s ctx p hs
  have hnothing (hcleaned : ctx.cleaned [] (ends && given.isSome) = ctx)
      (hcleanup : (securityContext given ends).cleanup ctx p = pure (ctx, .ok ())) :
      ∃ s', Yields ((securityContext given ends).cleanup ctx p) s
          (ctx.cleaned [] (ends && given.isSome), .ok ()) s' ∧ M.valid k s' ∧
        (((ends && given.isSome) = true → ctx.sessionId = none) → s' = s) := by
    rw [hcleaned, hcleanup]
    exact ⟨s, .pure _ _, hs, fun _ => rfl⟩
  cases ends with
  | false => exact hnothing rfl rfl
  | true =>
    cases given with
    | none => exact hnothing rfl rfl
    | some st =>
      obtain rfl := hgiven st rfl
      by_cases hid : ctx.sessionId = none
      · refine hnothing ?_ ?_
        · show ctx.withSession none = ctx
          rw [← hid]
          rfl
        · rw [securityContext]
          dsimp only
          rw [hid]
      · obtain ⟨id, hid'⟩ := Option.ne_none_iff_exists'.1 hid
        obtain ⟨s', hinvalidate, hvalid⟩ := h.invalidate id hs
        refine ⟨s', ?_, hvalid, fun hlost => absurd (hlost rfl) hid⟩
        rw [securityContext]
        dsimp only
        rw [hid']
        exact hinvalidate.bind (.pure _ _)

theorem cleans_cookieClearing (names : List String) :
    (cookieClearing names : LogoutHandler (StateT σ (Except ε))).Cleans M names false :=
  fun ctx _ hs => ⟨_, by
    rw [RequestContext.cleaned, ← RequestContext.sessionId_forgetting ctx names]
    exact .pure _ _, hs, fun _ => rfl⟩

theorem cleans_rememberMe (rc : RememberMeConfig) :
    (rc.handler : LogoutHandler (StateT σ (Except ε))).Cleans M [rc.cookieName] false :=
  fun _ _ hs => ⟨_, .pure _ _, hs, fun _ => rfl⟩

theorem Usual.cleans {handler : LogoutHandler (StateT σ (Except ε))} (h : M.Serves store)
    (husual : handler.Usual store) : ∃ names ends, handler.Cleans M names ends := by
  cases husual with
  | securityContext ends hgiven => exact ⟨_, _, cleans_securityContext h hgiven ends⟩
  | rememberMe rc => exact ⟨_, _, cleans_rememberMe rc⟩
  | cookieClearing names => exact ⟨_, _, cleans_cookieClearing names⟩

end LogoutHandler

/-- Handlers that clean up do so together as one would that removes what all of them remove, and
ends the session if one of them does. -/
theorem LogoutSequence.runHandlers_cleans (handlers : List (LogoutHandler (StateT σ (Except ε))))
    (hall : ∀ handler ∈ handlers, ∃ names ends, handler.Cleans M names ends) :
    ∃ names ends, ∀ {k s} ctx p, M.valid k s →
      ∃ s', Yields (runHandlers p handlers ctx) s (ctx.cleaned names ends, []) s' ∧ M.valid k s' ∧
        ((ends = true → ctx.sessionId = none) → s' = s) := by
  induction handlers with
  | nil => exact ⟨[], false, fun ctx _ hs => ⟨_, .pure _ _, hs, fun _ => rfl⟩⟩
  | cons handler handlers ih =>
    obtain ⟨names, ends, hfirst⟩ := hall handler List.mem_cons_self
    obtain ⟨names', ends', hrest⟩ := ih fun h hmem => hall h (List.mem_cons_of_mem handler hmem)
    refine ⟨names ++ names', ends || ends', fun ctx p hs => ?_⟩
    obtain ⟨s₁, hcleanup, hvalid₁, hsame₁⟩ := hfirst ctx p hs
    obtain ⟨s', hrun, hvalid, hsame⟩ := hrest (ctx.cleaned names ends) p hvalid₁
    rw [RequestContext.cleaned_cleaned] at hrun
    refine ⟨s', hcleanup.bind (hrun.bind (.pure _ _)), hvalid, fun hlost => ?_⟩
    rw [Bool.or_eq_true] at hlost
    rw [hsame fun hends => ?_, hsame₁ fun hends => hlost (.inl hends)]
    -- A session that the first handler has left to the others was none.
    rw [RequestContext.sessionId_cleaned, hlost (.inr hends), ite_self]

/-! ### A second logout -/

namespace SessionBinder

/-- In either mode, what a logout does last leaves nothing to do for the next one. -/
theorem unbind_settles {b : SessionBinder (StateT σ (Except ε))} (h : M.Serves store)
    (hb : b = .perSession store ∨ b = .perClient) (hs : M.valid k s) (ctx : RequestContext) :
    ∃ s', Yields (b.unbind ctx) s (ctx.unbindPrincipal, .ok ctx.principal) s' ∧ M.valid k s' ∧
      ∃ s'', Yields (b.unbind ctx.unbindPrincipal) s' (ctx.unbindPrincipal, .ok none) s'' ∧
        M.Same k s' s'' := by
  rcases hb with rfl | rfl
  · obtain ⟨s', hunbind, hvalid, hnobody, -⟩ := unbind_serves h hs ctx
    obtain ⟨s'', hagain, -, -, hsame⟩ := unbind_serves h hvalid ctx.unbindPrincipal
    exact ⟨s', hunbind, hvalid, s'', hagain, hsame hnobody⟩
  · exact ⟨s, .pure _ _, hs, s, .pure _ _, .refl hs⟩

end SessionBinder

namespace LoginCommand

variable {c : LoginCommand (StateT σ (Except ε))}
  {handlers : List (LogoutHandler (StateT σ (Except ε)))} {b : SessionBinder (StateT σ (Except ε))}

/-- In either mode, with any of the usual handlers in any order, a request can be logged out, and
then logging it out once more succeeds, whoever is logged out: it leaves the request just as it was,
with its queue of cookies in the same order, and all that can be read in the store. -/
theorem logout_again (h : M.Serves store) (hc : c.started = some ⟨handlers, b⟩)
    (hb : b = .perSession store ∨ b = .perClient)
    (hhandlers : ∀ handler ∈ handlers, handler.Usual store) (hs : M.valid k s)
    (ctx : RequestContext) (given given' : Option Principal) :
    ∃ ctx' s', Yields (c.logout ctx given) s (ctx', .ok ()) s' ∧ M.valid k s' ∧
      ∃ s'', Yields (c.logout ctx' given') s' (ctx', .ok ()) s'' ∧ M.Same k s' s'' := by
  obtain ⟨names, ends, hcleans⟩ := LogoutSequence.runHandlers_cleans handlers
    fun handler hmem => (hhandlers handler hmem).cleans h
  obtain ⟨s₁, hfirst, hvalid₁, -⟩ := hcleans ctx (given <|> ctx.principal) hs
  obtain ⟨s', hunbind, hvalid, s'', hagain, hsame⟩ :=
    SessionBinder.unbind_settles h hb hvalid₁ (ctx.cleaned names ends)
  -- The second clean-up finds the session gone, if one was to be ended.
  obtain ⟨s₂, hsecond, -, hstays⟩ := hcleans (ctx.cleaned names ends).unbindPrincipal given' hvalid
  obtain rfl : s₂ = s' := hstays fun hends => by
    rw [RequestContext.unbindPrincipal, RequestContext.sessionId_cleaned, if_pos hends]
  rw [RequestContext.cleaned_again] at hsecond
  have hgiven : (given' <|> (ctx.cleaned names ends).unbindPrincipal.principal) = given' := by
    cases given' <;> rfl
  refine ⟨(ctx.cleaned names ends).unbindPrincipal, s₂, ?_, hvalid, s'', ?_, hsame⟩
  · simp only [logout, hc]
    exact hfirst.bind (hunbind.bind (.pure _ _))
  · simp only [logout, hc, LogoutSequence.run, hgiven]
    exact hsecond.bind (hagain.bind (.pure _ _))

/-- Handlers that remove some cookies more than once and let the session be. -/
def lenientHandlers : List (LogoutHandler (World.Run Unit)) :=
  [.cookieClearing ["theme", "remember-me"],
    RememberMeConfig.handler ⟨"remember-me", "secret", 1209600⟩,
    .securityContext (some (World.sessionStore World.counting)) false, .cookieClearing ["theme"]]

/-- A command with these handlers. -/
def lenient : LoginCommand (World.Run Unit) :=
  { new ⟨fun credential => return .ok ⟨credential.username.text, .empty⟩⟩ with
    started := some ⟨lenientHandlers, .perSession (World.sessionStore World.counting)⟩ }

/-- A request of somebody in the first session, for which cookies are queued. -/
def leaving : RequestContext where
  sessionId := World.counting 0
  responseCookies := [⟨"theme", "dark", none, false⟩, ⟨"lang", "en", none, true⟩]
  principal := World.alice

/-- The session is kept, and so is the order of the cookies. -/
theorem logout_again_lenient : ∃ ctx s' s'',
    Yields (lenient.logout leaving none) (World.holding World.alice) (ctx, .ok ()) s' ∧
      Yields (lenient.logout ctx (some World.alice)) s' (ctx, .ok ()) s'' ∧
      (World.model World.counting 1 60 0 ()).Same 0 s' s'' ∧
      ctx.sessionId = World.counting 0 ∧
      ctx.responseCookies.map ResponseCookie.name = ["lang", "remember-me", "theme"] := by
  have husual : ∀ handler ∈ lenientHandlers,
      handler.Usual (World.sessionStore World.counting) := by
    simp only [lenientHandlers, List.forall_mem_cons, List.not_mem_nil, false_implies,
      implies_true, and_true]
    exact ⟨.cookieClearing _, .rememberMe _,
      .securityContext false fun st hst => (Option.some.inj hst).symm, .cookieClearing _⟩
  have hserves : (World.model World.counting 1 60 0 ()).Serves
      (World.sessionStore World.counting) := World.serves (by decide)
  have hstarted : lenient.started =
      some ⟨lenientHandlers, .perSession (World.sessionStore World.counting)⟩ := rfl
  obtain ⟨ctx, s', hfirst, -, s'', hsecond, hsame⟩ := logout_again hserves hstarted (.inl rfl)
    husual (World.valid_holding World.alice) leaving none (some World.alice)
  refine ⟨ctx, s', s'', hfirst, hsecond, hsame, ?_⟩
  -- What the first logout leaves can be computed.
  obtain ⟨ctx', w', hrun, hctx⟩ : ∃ ctx' w',
      Yields (lenient.logout leaving none) (World.holding World.alice) (ctx', .ok ()) w' ∧
        ctx'.sessionId = World.counting 0 ∧
        ctx'.responseCookies.map ResponseCookie.name = ["lang", "remember-me", "theme"] :=
    ⟨_, _, rfl, rfl, rfl⟩
  rwa [(Prod.mk.inj (hfirst.eq hrun).1).1]

end LoginCommand

end WebLogin
