/-
Session stores seen as maps.

A `StoreModel` reads a state of the world as a map from session ids to sessions, each with a stamp
(such as its deadline), together with the ids that have been in use so far. `StoreModel.Laws` says
that a session store does to this map what its calls promise, and which of its calls may fail
instead; a call that fails leaves the map as it is. New ids come from a supply that may be bounded,
so validity counts how many of them are left.

* `Yields.bind`, `Yields.pure` — how computations that end in a state are put together;
* `StoreModel.Laws.get_yields`, `create_yields`, `save_yields`, `invalidate_yields` — what a call
  that may not fail does to the map.
-/
import WebLogin.Store.Basic
import Mathlib.Logic.Function.Basic

namespace WebLogin

/-! ### Computations that end in a state -/

/-- A computation, started in one state, ends in another one with a value. -/
def Yields {σ ε α : Type} (x : StateT σ (Except ε) α) (s : σ) (a : α) (s' : σ) : Prop :=
  x.run s = .ok (a, s')

namespace Yields

variable {σ ε α β : Type} {s s' s'' : σ} {a : α} {b : β}

theorem pure (a : α) (s : σ) : Yields (pure a : StateT σ (Except ε) α) s a s := rfl

theorem bind {x : StateT σ (Except ε) α} {f : α → StateT σ (Except ε) β}
    (hx : Yields x s a s') (hf : Yields (f a) s' b s'') : Yields (x >>= f) s b s'' := by
  have hrun : (x >>= f).run s = x.run s >>= fun p => (f p.1).run p.2 := rfl
  rw [Yields, hrun, hx]
  exact hf

/-- What a computation yields is determined by where it starts. -/
theorem eq {x : StateT σ (Except ε) α} {a' : α} (h : Yields x s a s') (h' : Yields x s a' s'') :
    a = a' ∧ s' = s'' := by
  have hok := h.symm.trans h'
  rwa [Except.ok.injEq, Prod.mk.injEq] at hok

/-- What is put together from two steps yields what they do. -/
theorem of_bind {x : StateT σ (Except ε) α} {f : α → StateT σ (Except ε) β}
    (h : Yields (x >>= f) s b s'') : ∃ a s', Yields x s a s' ∧ Yields (f a) s' b s'' := by
  have hrun : (x >>= f).run s = x.run s >>= fun p => (f p.1).run p.2 := rfl
  rw [Yields, hrun] at h
  cases hx : x.run s with
  | error e =>
    rw [hx] at h
    cases h
  | ok p =>
    rw [hx] at h
    exact ⟨p.1, p.2, hx, h⟩

/-- The same for steps that may give up, if they did not. -/
theorem of_bind_ok {δ : Type} {x : ExceptT δ (StateT σ (Except ε)) α}
    {f : α → ExceptT δ (StateT σ (Except ε)) β} (h : Yields (x >>= f).run s (.ok b) s'') :
    ∃ a s', Yields x.run s (.ok a) s' ∧ Yields (f a).run s' (.ok b) s'' := by
  obtain ⟨r, s', hx, hf⟩ := of_bind h
  cases r with
  | error e =>
    have hgave : Yields (Pure.pure (.error e) : StateT σ (Except ε) (Except δ β)) s' (.ok b) s'' :=
      hf
    cases (hgave.eq (pure _ _)).1
  | ok a => exact ⟨a, s', hx, hf⟩

end Yields

/-! ### Stores as maps -/

/-- The calls of a session store. -/
inductive StoreOp where
  | create
  | get
  | save
  | invalidate
  deriving DecidableEq

/-- How the states of a world are read as a map of sessions. -/
structure StoreModel (σ τ : Type) where
  /-- The state makes sense, and so many new ids can still be drawn. -/
  valid : Nat → σ → Prop
  /-- The session under an id, with its stamp. -/
  view : σ → SessionId → Option (Session × τ)
  /-- The id has been in use. -/
  known : σ → SessionId → Prop
  /-- The stamp of a session that is written now. -/
  stamp : τ

namespace StoreModel

variable {σ τ ε : Type}

/-- The session under an id. -/
def session? (M : StoreModel σ τ) (s : σ) (id : SessionId) : Option Session :=
  (M.view s id).map Prod.fst

/-- Who is logged in with a session. -/
def holder (M : StoreModel σ τ) (s : σ) (id : SessionId) : Option Principal :=
  (M.session? s id).bind Session.principal

/-- Who is logged in with a session, and its stamp. -/
def login? (M : StoreModel σ τ) (s : σ) (id : SessionId) : Option (Principal × τ) :=
  (M.view s id).bind fun e => e.1.principal.map (·, e.2)

theorem holder_eq (M : StoreModel σ τ) (s : σ) (id : SessionId) :
    M.holder s id = (M.login? s id).map Prod.fst := by
  rw [holder, session?, login?]
  cases M.view s id with
  | none => rfl
  | some e => cases hp : e.1.principal <;> simp [hp]

theorem login?_eq_none {M : StoreModel σ τ} {s : σ} {id : SessionId}
    (h : M.session? s id = none) : M.login? s id = none := by
  rw [session?, Option.map_eq_none_iff] at h
  rw [login?, h, Option.bind_none]

/-- A state that reads the same, and is as valid. -/
structure Same (M : StoreModel σ τ) (k : Nat) (s s' : σ) : Prop where
  valid : M.valid k s'
  view : M.view s' = M.view s
  known : M.known s' = M.known s

/-- A state that reads the same but for the entry of one id, which was in use before. -/
structure Writes (M : StoreModel σ τ) (k : Nat) (s : σ) (id : SessionId)
    (entry : Option (Session × τ)) (s' : σ) : Prop where
  valid : M.valid k s'
  view : M.view s' = Function.update (M.view s) id entry
  known : M.known s' = M.known s

/-- A state with one more id in use, which stands for a session with nobody logged in. -/
structure Creates (M : StoreModel σ τ) (k : Nat) (s : σ) (id : SessionId) (s' : σ) : Prop where
  valid : M.valid k s'
  fresh : ¬M.known s id
  view : M.view s' = Function.update (M.view s) id (some (.fresh id, M.stamp))
  known : ∀ id', M.known s' id' ↔ id' = id ∨ M.known s id'

/-- A call that fails and leaves the map as it is. -/
def Refuses {α : Type} (M : StoreModel σ τ) (k : Nat) (s : σ)
    (call : StateT σ (Except ε) (Except StoreError α)) : Prop :=
  ∃ e s', Yields call s (.error e) s' ∧ M.Same k s s'

/-- A session store does to the map what its calls promise; only some of its calls may fail. -/
structure Laws (M : StoreModel σ τ) (store : SessionStore (StateT σ (Except ε)))
    (fails : StoreOp → Prop) : Prop where
  /-- Having more ids left does no harm. -/
  weaken : ∀ {k s}, M.valid (k + 1) s → M.valid k s
  /-- Every session stands under its own id. -/
  id_eq : ∀ {k s id x}, M.valid k s → M.session? s id = some x → x.id = id
  /-- The ids of sessions are in use. -/
  known_of_session : ∀ {k s id x}, M.valid k s → M.session? s id = some x → M.known s id
  /-- A session is made under an id that was not in use. -/
  create : ∀ {k s}, M.valid (k + 1) s →
    (∃ id s', Yields store.create s (.ok (.fresh id)) s' ∧ M.Creates k s id s') ∨
      fails .create ∧ M.Refuses (k + 1) s store.create
  /-- Looking a session up changes nothing. -/
  get : ∀ {k s} id, M.valid k s →
    (∃ s', Yields (store.get id) s (.ok (M.session? s id)) s' ∧ M.Same k s s') ∨
      fails .get ∧ M.Refuses k s (store.get id)
  /-- A session that is there is replaced. -/
  save : ∀ {k s x}, M.valid k s → (M.session? s x.id).isSome →
    (∃ s', Yields (store.save x) s (.ok ()) s' ∧ M.Writes k s x.id (some (x, M.stamp)) s') ∨
      fails .save ∧ M.Refuses k s (store.save x)
  /-- A session that is not there cannot be replaced. -/
  save_missing : ∀ {k s x}, M.valid k s → M.session? s x.id = none →
    (∃ s', Yields (store.save x) s (.error .sessionNotFound) s' ∧ M.Same k s s') ∨
      fails .save ∧ M.Refuses k s (store.save x)
  /-- A session is removed, whether it is there or not. -/
  invalidate : ∀ {k s} id, M.valid k s →
    (∃ s', Yields (store.invalidate id) s (.ok ()) s' ∧ M.Writes k s id none s') ∨
      fails .invalidate ∧ M.Refuses k s (store.invalidate id)

namespace Laws

variable {M : StoreModel σ τ} {store : SessionStore (StateT σ (Except ε))}
  {fails : StoreOp → Prop} {k : Nat} {s : σ}

theorem create_yields (h : M.Laws store fails) (hok : ¬fails .create) (hs : M.valid (k + 1) s) :
    ∃ id s', Yields store.create s (.ok (.fresh id)) s' ∧ M.Creates k s id s' :=
  (h.create hs).resolve_right fun hf => hok hf.1

theorem get_yields (h : M.Laws store fails) (hok : ¬fails .get) (hs : M.valid k s)
    (id : SessionId) : ∃ s', Yields (store.get id) s (.ok (M.session? s id)) s' ∧ M.Same k s s' :=
  (h.get id hs).resolve_right fun hf => hok hf.1

theorem save_yields (h : M.Laws store fails) (hok : ¬fails .save) (hs : M.valid k s) {x : Session}
    (hx : (M.session? s x.id).isSome) :
    ∃ s', Yields (store.save x) s (.ok ()) s' ∧ M.Writes k s x.id (some (x, M.stamp)) s' :=
  (h.save hs hx).resolve_right fun hf => hok hf.1

theorem invalidate_yields (h : M.Laws store fails) (hok : ¬fails .invalidate)
    (hs : M.valid k s) (id : SessionId) :
    ∃ s', Yields (store.invalidate id) s (.ok ()) s' ∧ M.Writes k s id none s' :=
  (h.invalidate id hs).resolve_right fun hf => hok hf.1

end Laws

end StoreModel

end WebLogin
