/-
Sessions while time passes.

A store keeps the laws of a map as long as its clock stands still. `StoreModel.atMoment` reads every
state at the moment at which it is, so that the laws hold whatever the clock shows, and between two
calls sessions may lapse.

* `StoreModel.Laws.atMoment` — the laws at every moment;
* `World.passing` — the sessions of a world in memory, whose clock moves on;
* `World.lapse` — time that passes takes sessions away and changes nothing else.
-/
import WebLogin.Proofs.Store.World

namespace WebLogin

namespace StoreModel

variable {σ τ ε μ : Type} {possible : μ → Prop} {M : μ → StoreModel σ τ} {moment : σ → μ}

/-- Reads every state at its own moment, without the stamps. -/
def atMoment (possible : μ → Prop) (M : μ → StoreModel σ τ) (moment : σ → μ) :
    StoreModel σ Unit where
  valid k s := possible (moment s) ∧ (M (moment s)).valid k s
  view s id := ((M (moment s)).view s id).map fun e => (e.1, ())
  known s := (M (moment s)).known s
  stamp := ()

variable {store : SessionStore (StateT σ (Except ε))} {fails : StoreOp → Prop} {k : Nat} {s s' : σ}

theorem atMoment_session? :
    (atMoment possible M moment).session? s = (M (moment s)).session? s := by
  funext id
  rw [session?, session?, atMoment, Option.map_map]
  rfl

theorem atMoment_update {id : SessionId} {entry : Option (Session × τ)}
    (hstands : moment s' = moment s)
    (hview : (M (moment s)).view s' = Function.update ((M (moment s)).view s) id entry) :
    (atMoment possible M moment).view s' = Function.update ((atMoment possible M moment).view s) id
      (entry.map fun e => (e.1, ())) := by
  funext id'
  show ((M (moment s')).view s' id').map _ = _
  rw [hstands, hview, Function.update_apply, Function.update_apply]
  split <;> rfl

/-- A state that is valid at a moment is at that moment. -/
def Stands (M : μ → StoreModel σ τ) (moment : σ → μ) : Prop :=
  ∀ {i k s}, (M i).valid k s → moment s = i

theorem Same.atMoment (hstands : Stands M moment) (hpossible : possible (moment s))
    (h : (M (moment s)).Same k s s') : (atMoment possible M moment).Same k s s' := by
  have hmoment : moment s' = moment s := hstands h.valid
  refine ⟨?_, ?_, ?_⟩
  · show possible (moment s') ∧ (M (moment s')).valid k s'
    rw [hmoment]
    exact ⟨hpossible, h.valid⟩
  · funext id
    show ((M (moment s')).view s' id).map _ = ((M (moment s)).view s id).map _
    rw [hmoment, h.view]
  · show (M (moment s')).known s' = (M (moment s)).known s
    rw [hmoment, h.known]

theorem Writes.atMoment (hstands : Stands M moment) (hpossible : possible (moment s))
    {id : SessionId} {entry : Option (Session × τ)} (h : (M (moment s)).Writes k s id entry s') :
    (atMoment possible M moment).Writes k s id (entry.map fun e => (e.1, ())) s' := by
  have hmoment : moment s' = moment s := hstands h.valid
  refine ⟨?_, atMoment_update hmoment h.view, ?_⟩
  · show possible (moment s') ∧ (M (moment s')).valid k s'
    rw [hmoment]
    exact ⟨hpossible, h.valid⟩
  · show (M (moment s')).known s' = (M (moment s)).known s
    rw [hmoment, h.known]

theorem Creates.atMoment (hstands : Stands M moment) (hpossible : possible (moment s))
    {id : SessionId} (h : (M (moment s)).Creates k s id s') :
    (atMoment possible M moment).Creates k s id s' := by
  have hmoment : moment s' = moment s := hstands h.valid
  refine ⟨?_, h.fresh, atMoment_update hmoment h.view, fun id' => ?_⟩
  · show possible (moment s') ∧ (M (moment s')).valid k s'
    rw [hmoment]
    exact ⟨hpossible, h.valid⟩
  · show (M (moment s')).known s' id' ↔ _
    rw [hmoment]
    exact h.known id'

theorem Refuses.atMoment {α : Type} (hstands : Stands M moment) (hpossible : possible (moment s))
    {call : StateT σ (Except ε) (Except StoreError α)} (h : (M (moment s)).Refuses k s call) :
    (atMoment possible M moment).Refuses k s call := by
  obtain ⟨e, s', hrun, hsame⟩ := h
  exact ⟨e, s', hrun, hsame.atMoment hstands hpossible⟩

/-- A store that keeps the laws while time stands still keeps them when every state is read at its
own moment. -/
theorem Laws.atMoment (hstands : Stands M moment) (h : ∀ i, possible i → (M i).Laws store fails) :
    (atMoment possible M moment).Laws store fails where
  weaken hs := ⟨hs.1, (h _ hs.1).weaken hs.2⟩
  id_eq hs hx := by
    rw [atMoment_session?] at hx
    exact (h _ hs.1).id_eq hs.2 hx
  known_of_session hs hx := by
    rw [atMoment_session?] at hx
    exact (h _ hs.1).known_of_session hs.2 hx
  create hs := ((h _ hs.1).create hs.2).imp
    (fun hc => by
      obtain ⟨id, s', hrun, hcreates⟩ := hc
      exact ⟨id, s', hrun, hcreates.atMoment hstands hs.1⟩)
    fun hf => ⟨hf.1, hf.2.atMoment hstands hs.1⟩
  get id hs := by
    rw [atMoment_session?]
    refine ((h _ hs.1).get id hs.2).imp (fun hg => ?_) fun hf => ⟨hf.1, hf.2.atMoment hstands hs.1⟩
    obtain ⟨s', hrun, hsame⟩ := hg
    exact ⟨s', hrun, hsame.atMoment hstands hs.1⟩
  save hs hx := by
    rw [atMoment_session?] at hx
    refine ((h _ hs.1).save hs.2 hx).imp (fun hw => ?_) fun hf => ⟨hf.1, hf.2.atMoment hstands hs.1⟩
    obtain ⟨s', hrun, hwrites⟩ := hw
    exact ⟨s', hrun, hwrites.atMoment hstands hs.1⟩
  save_missing hs hx := by
    rw [atMoment_session?] at hx
    refine ((h _ hs.1).save_missing hs.2 hx).imp (fun hg => ?_)
      fun hf => ⟨hf.1, hf.2.atMoment hstands hs.1⟩
    obtain ⟨s', hrun, hsame⟩ := hg
    exact ⟨s', hrun, hsame.atMoment hstands hs.1⟩
  invalidate id hs := by
    refine ((h _ hs.1).invalidate id hs.2).imp (fun hw => ?_)
      fun hf => ⟨hf.1, hf.2.atMoment hstands hs.1⟩
    obtain ⟨s', hrun, hwrites⟩ := hw
    exact ⟨s', hrun, hwrites.atMoment hstands hs.1⟩

/-- From one state to the other, sessions may have lapsed. -/
structure Lapse (M : StoreModel σ τ) (s s' : σ) : Prop where
  valid : ∀ {k}, M.valid k s → M.valid k s'
  known : ∀ {id}, M.known s id → M.known s' id
  view : ∀ id, M.view s' id = M.view s id ∨ M.view s' id = none

end StoreModel

namespace World

variable {α : Type} {ids : Nat → SessionId} {most ttl : Nat} {w : World α}

/-- The sessions of a world, at whatever moment its deadlines can be written. -/
def passing (ids : Nat → SessionId) (most ttl : Nat) : StoreModel (World α) Unit :=
  .atMoment (fun m => m.1 / 1000 + ttl ≤ Uptime.lastSecond)
    (fun m : Uptime × α => model ids most ttl m.1 m.2) fun w => (w.clock, w.outside)

theorem laws_passing (hids : Set.InjOn ids (Set.Iio most)) (httl : 1 ≤ ttl)
    (fails : StoreOp → Prop) :
    (passing ids most ttl : StoreModel (World α) Unit).Laws (sessionStore ids) fails :=
  .atMoment (fun {_ _ _} hs => Prod.ext hs.2.1 hs.2.2.2.1) fun _ hi => laws hids hi httl fails

/-- Time passes, and anything may happen outside. -/
theorem lapse (ms : Nat) (outside : α)
    (hclock : (w.clock + ms) / 1000 + ttl ≤ Uptime.lastSecond) :
    (passing ids most ttl).Lapse w { w with clock := w.clock + ms, outside } where
  valid hs := ⟨hclock, ⟨hs.2.1.store, hs.2.1.drawn⟩, rfl, hs.2.2.2.1, rfl, hs.2.2.2.2.2⟩
  known hid := hid
  view id := by
    show ((w.store.live (w.clock + ms) id).map _).map _ = ((w.store.live w.clock id).map _).map _ ∨
      ((w.store.live (w.clock + ms) id).map _).map _ = none
    rw [MemoryStore.live_later (Nat.le_add_right w.clock ms)]
    cases w.store.live w.clock id with
    | none => exact .inl rfl
    | some e =>
      rw [Option.filter_some]
      split
      · exact .inl rfl
      · exact .inr rfl

end World

end WebLogin
