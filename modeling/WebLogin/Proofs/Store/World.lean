/-
A world that keeps its sessions in memory.

A `World` is what a service in memory runs on: the store, a clock, a supply of new ids, and
whatever lies outside. At a moment whose deadlines the clock can write, and as long as the supply
does not repeat itself, its store keeps the laws of a map of the live entries, and none of its
calls fails.

* `World.laws` — the laws at a standing clock;
* `World.view_later` — what the map becomes when the clock moves on.
-/
import WebLogin.Proofs.Store.Memory
import WebLogin.Proofs.Store.Model
import Mathlib.Data.Set.Function
import Mathlib.Order.Interval.Set.Defs
import Mathlib.Algebra.Group.Nat.Defs

namespace WebLogin

/-- What a service in memory runs on. -/
structure World (α : Type) where
  store : MemoryStore
  clock : Uptime
  /-- How many ids have been drawn from the supply. -/
  drawn : Nat
  /-- What lies outside the service. -/
  outside : α

namespace World

variable {α : Type}

/-- Computations in a world. -/
abbrev Run (α : Type) := StateT (World α) (Except ClockOverflow)

instance : MonadStateOf MemoryStore (Run α) where
  get := do return (← getThe (World α)).store
  set s := modifyThe (World α) ({ · with store := s })
  modifyGet f := modifyGetThe (World α) fun w =>
    let (a, s) := f w.store
    (a, { w with store := s })

/-- Draws the next id from a supply. -/
def freshId (ids : Nat → SessionId) : Run α SessionId :=
  modifyGetThe (World α) fun w => (ids w.drawn, { w with drawn := w.drawn + 1 })

/-- The session store of a world. -/
def sessionStore (ids : Nat → SessionId) : SessionStore (Run α) :=
  MemoryStore.sessionStore (do return (← getThe (World α)).clock) (freshId ids)

/-- A world whose store is as its operations leave it: every session stands under its own id, and
that was drawn from the supply. -/
structure Sound (ids : Nat → SessionId) (w : World α) : Prop where
  store : w.store.Sound
  drawn : ∀ id e, w.store.find? id = some e → ∃ i < w.drawn, ids i = id

theorem sound_of_empty {ids : Nat → SessionId} {w : World α} {ttl : Nat}
    (h : w.store = { ttl }) : w.Sound ids where
  store := h ▸ MemoryStore.sound_empty ttl
  drawn _ _ he := by
    rw [h] at he
    cases he

/-- The live entries of a world at a standing clock. `most` bounds the ids that are drawn. -/
def model (ids : Nat → SessionId) (most ttl : Nat) (now : Uptime) (outside : α) :
    StoreModel (World α) Uptime where
  valid k w := w.Sound ids ∧ w.clock = now ∧ w.store.ttl = ttl ∧ w.outside = outside ∧
    w.drawn + k ≤ most
  view w id := (w.store.live now id).map fun e => (e.session, e.deadline)
  known w id := ∃ i < w.drawn, ids i = id
  stamp := now + 1000 * ttl

section Laws

variable {ids : Nat → SessionId} {most ttl k : Nat} {now : Uptime} {outside : α} {w : World α}

theorem update_yields {β : Type} {op : MemoryStore → Except ClockOverflow (β × MemoryStore)}
    {b : β} {s : MemoryStore} (h : op w.store = .ok (b, s)) :
    Yields (MemoryStore.update op : Run α β) w b { w with store := s } := by
  have hget : Yields (getThe MemoryStore : Run α MemoryStore) w w.store w := rfl
  refine hget.bind ?_
  rw [h]
  rfl

theorem clock_yields (w : World α) :
    Yields (do return (← getThe (World α)).clock : Run α Uptime) w w.clock w := rfl

theorem valid_mono {k' : Nat} (hw : (model ids most ttl now outside).valid k w) (h : k' ≤ k) :
    (model ids most ttl now outside).valid k' w := by
  obtain ⟨hsound, hnow, ht, hout, hdrawn⟩ := hw
  exact ⟨hsound, hnow, ht, hout, by omega⟩

/-- Whatever happens outside is no concern of the store. -/
theorem valid_outside (outside' : α) (hw : (model ids most ttl now outside).valid k w) :
    (model ids most ttl now outside').valid k { w with outside := outside' } := by
  obtain ⟨hsound, hnow, ht, -, hdrawn⟩ := hw
  exact ⟨⟨hsound.store, hsound.drawn⟩, hnow, ht, rfl, hdrawn⟩

theorem model_session? (w : World α) (id : SessionId) :
    (model ids most ttl now outside).session? w id =
      (w.store.live now id).map MemoryEntry.session := by
  rw [StoreModel.session?, model, Option.map_map]
  rfl

/-- A change to one live entry is a change to one entry of the map. -/
theorem model_view (w : World α) (drawn : Nat) {store : MemoryStore} {id : SessionId}
    {e : Option MemoryEntry} (h : store.live now = Function.update (w.store.live now) id e) :
    (model ids most ttl now outside).view ⟨store, w.clock, drawn, w.outside⟩ = Function.update
      ((model ids most ttl now outside).view w) id (e.map fun e => (e.session, e.deadline)) := by
  funext id'
  simp only [model, h, Function.update_apply]
  split <;> rfl

theorem create_yields (hids : Set.InjOn ids (Set.Iio most))
    (hclock : now / 1000 + ttl ≤ Uptime.lastSecond) (httl : 1 ≤ ttl)
    (hw : (model ids most ttl now outside).valid (k + 1) w) :
    ∃ id w', Yields (sessionStore ids).create w (.ok (.fresh id)) w' ∧
      (model ids most ttl now outside).Creates k w id w' := by
  obtain ⟨hsound, rfl, rfl, rfl, hdrawn⟩ := hw
  refine ⟨ids w.drawn, ⟨(w.store.purge w.clock).insert (ids w.drawn)
    ⟨.fresh (ids w.drawn), w.clock + 1000 * w.store.ttl⟩, w.clock, w.drawn + 1, w.outside⟩,
    ?_, ⟨⟨?_, ?_⟩, rfl, rfl, rfl, ?_⟩, ?_, ?_, ?_⟩
  · have hdraw : Yields (freshId ids) w (ids w.drawn) { w with drawn := w.drawn + 1 } := rfl
    exact (clock_yields w).bind (hdraw.bind ((update_yields (MemoryStore.create_eq hclock)).bind
      (Yields.pure _ _)))
  · exact (hsound.store.purge w.clock).insert rfl
  · intro id e he
    rw [MemoryStore.find?_insert] at he
    by_cases hid : id = ids w.drawn
    · exact ⟨w.drawn, Nat.lt_succ_self _, hid.symm⟩
    · rw [if_neg hid, MemoryStore.find?_purge hsound.store, MemoryStore.live_eq_some_iff] at he
      obtain ⟨i, hi, hid⟩ := hsound.drawn id e he.1
      exact ⟨i, Nat.lt_succ_of_lt hi, hid⟩
  · show w.drawn + 1 + k ≤ most
    omega
  · rintro ⟨i, hi, hid⟩
    have := hids (show i < most by omega) (show w.drawn < most by omega) hid
    omega
  · have hlive : ((w.store.purge w.clock).insert (ids w.drawn)
        ⟨.fresh (ids w.drawn), w.clock + 1000 * w.store.ttl⟩).live w.clock = Function.update
          (w.store.live w.clock) (ids w.drawn)
          (some ⟨.fresh (ids w.drawn), w.clock + 1000 * w.store.ttl⟩) := by
      rw [MemoryStore.live_insert (Nat.lt_add_of_pos_right (by omega)),
        MemoryStore.live_purge hsound.store]
    exact model_view w (w.drawn + 1) hlive
  · intro id
    show (∃ i < w.drawn + 1, ids i = id) ↔ id = ids w.drawn ∨ ∃ i < w.drawn, ids i = id
    constructor
    · rintro ⟨i, hi, hid⟩
      rcases Nat.lt_succ_iff_lt_or_eq.1 hi with hi | rfl
      · exact .inr ⟨i, hi, hid⟩
      · exact .inl hid.symm
    · rintro (rfl | ⟨i, hi, hid⟩)
      · exact ⟨w.drawn, Nat.lt_succ_self _, rfl⟩
      · exact ⟨i, Nat.lt_succ_of_lt hi, hid⟩

theorem get_yields (id : SessionId) (hw : (model ids most ttl now outside).valid k w) :
    ∃ w', Yields ((sessionStore ids).get id) w
        (.ok ((model ids most ttl now outside).session? w id)) w' ∧
      (model ids most ttl now outside).Same k w w' := by
  obtain ⟨hsound, rfl, rfl, rfl, hdrawn⟩ := hw
  -- Either nothing changes, or the session is found expired and dropped.
  have hsnd := MemoryStore.get_snd w.store w.clock id
  refine ⟨{ w with store := (w.store.get w.clock id).2 }, ?_, ⟨⟨?_, ?_⟩, rfl, ?_, rfl, hdrawn⟩,
    ?_, rfl⟩
  · rw [model_session?, ← MemoryStore.get_fst]
    exact (clock_yields w).bind ((update_yields rfl).bind (Yields.pure _ _))
  · exact hsound.store.get w.clock id
  · intro id' e he
    rcases hsnd with hsnd | ⟨hsnd, -⟩
    · exact hsound.drawn id' e (hsnd ▸ he)
    · rw [hsnd, MemoryStore.find?_erase] at he
      split at he
      · cases he
      · exact hsound.drawn id' e he
  · show (w.store.get w.clock id).2.ttl = w.store.ttl
    rcases hsnd with hsnd | ⟨hsnd, -⟩
    · rw [hsnd]
    · rw [hsnd, MemoryStore.erase]
  · funext id'
    show ((w.store.get w.clock id).2.live w.clock id').map _ = _
    rw [MemoryStore.live_get]
    rfl

/-- A session that is there is put in its place, whether or not it will be there afterwards. -/
theorem save_inserts (hclock : now / 1000 + ttl ≤ Uptime.lastSecond) {x : Session}
    (hw : (model ids most ttl now outside).valid k w)
    (hx : ((model ids most ttl now outside).session? w x.id).isSome) :
    Yields ((sessionStore ids).save x) w (.ok ())
        { w with store := w.store.insert x.id ⟨x, now + 1000 * ttl⟩ } ∧
      (model ids most ttl now outside).valid k
        { w with store := w.store.insert x.id ⟨x, now + 1000 * ttl⟩ } := by
  obtain ⟨hsound, rfl, rfl, rfl, hdrawn⟩ := hw
  rw [model_session?, Option.isSome_map] at hx
  refine ⟨(clock_yields w).bind (update_yields (MemoryStore.save_eq_of_live hclock hx)),
    ⟨hsound.store.insert rfl, fun id' e he => ?_⟩, rfl, rfl, rfl, hdrawn⟩
  rw [MemoryStore.find?_insert] at he
  split at he
  · rename_i hid
    obtain ⟨e', he'⟩ := Option.isSome_iff_exists.1 hx
    rw [hid]
    exact hsound.drawn x.id e' (MemoryStore.live_eq_some_iff.1 he').1
  · exact hsound.drawn id' e he

theorem save_yields (hclock : now / 1000 + ttl ≤ Uptime.lastSecond) (httl : 1 ≤ ttl) {x : Session}
    (hw : (model ids most ttl now outside).valid k w)
    (hx : ((model ids most ttl now outside).session? w x.id).isSome) :
    ∃ w', Yields ((sessionStore ids).save x) w (.ok ()) w' ∧
      (model ids most ttl now outside).Writes k w x.id (some (x, now + 1000 * ttl)) w' := by
  obtain ⟨hrun, hvalid⟩ := save_inserts hclock hw hx
  obtain ⟨-, rfl, rfl, rfl, -⟩ := hw
  have hlive : (w.store.insert x.id ⟨x, w.clock + 1000 * w.store.ttl⟩).live w.clock =
      Function.update (w.store.live w.clock) x.id
        (some ⟨x, w.clock + 1000 * w.store.ttl⟩) :=
    MemoryStore.live_insert (Nat.lt_add_of_pos_right (by omega))
  exact ⟨_, hrun, hvalid, model_view w w.drawn hlive, rfl⟩

theorem invalidate_yields (id : SessionId) (hw : (model ids most ttl now outside).valid k w) :
    ∃ w', Yields ((sessionStore ids).invalidate id) w (.ok ()) w' ∧
      (model ids most ttl now outside).Writes k w id none w' := by
  obtain ⟨hsound, rfl, rfl, rfl, hdrawn⟩ := hw
  refine ⟨{ w with store := w.store.invalidate id }, (update_yields rfl).bind (Yields.pure _ _),
    ⟨⟨hsound.store.erase id, ?_⟩, rfl, rfl, rfl, hdrawn⟩, ?_, rfl⟩
  · intro id' e he
    rw [MemoryStore.invalidate, MemoryStore.find?_erase] at he
    split at he
    · cases he
    · exact hsound.drawn id' e he
  · exact model_view w w.drawn (MemoryStore.live_invalidate w.store w.clock id)

/-- While the clock stands still, the store of a world is a map, and no call fails. -/
theorem laws (hids : Set.InjOn ids (Set.Iio most))
    (hclock : now / 1000 + ttl ≤ Uptime.lastSecond) (httl : 1 ≤ ttl) (fails : StoreOp → Prop) :
    (model ids most ttl now outside).Laws (sessionStore ids) fails where
  weaken hw := valid_mono hw (Nat.le_succ _)
  id_eq {k w id x} hw hx := by
    rw [model_session?] at hx
    obtain ⟨e, he, rfl⟩ := Option.map_eq_some_iff.1 hx
    exact hw.1.store.id_eq id e (MemoryStore.live_eq_some_iff.1 he).1
  known_of_session {k w id x} hw hx := by
    rw [model_session?] at hx
    obtain ⟨e, he, rfl⟩ := Option.map_eq_some_iff.1 hx
    exact hw.1.drawn id e (MemoryStore.live_eq_some_iff.1 he).1
  create hw := .inl (create_yields hids hclock httl hw)
  get id hw := .inl (get_yields id hw)
  save hw hx := .inl (save_yields hclock httl hw hx)
  save_missing {k w x} hw hx := by
    rw [model_session?, Option.map_eq_none_iff] at hx
    exact .inl ⟨w, (clock_yields w).bind
      (update_yields (MemoryStore.save_eq_of_missing (hw.2.1 ▸ hx))), hw, rfl, rfl⟩
  invalidate id hw := .inl (invalidate_yields id hw)

/-- Later, an entry is there if it is there now and its deadline lies beyond. -/
theorem view_later {later : Uptime} (h : now ≤ later) (w : World α) (id : SessionId) :
    (model ids most ttl later outside).view w id =
      ((model ids most ttl now outside).view w id).filter fun e => decide (later < e.2) := by
  show ((w.store.live later id).map _) = ((w.store.live now id).map _).filter _
  rw [MemoryStore.live_later h, Option.filter_map]
  rfl

/-- Later, somebody is logged in if they are now and the deadline lies beyond. -/
theorem login?_later {later : Uptime} (h : now ≤ later) (w : World α) (id : SessionId) :
    (model ids most ttl later outside).login? w id =
      ((model ids most ttl now outside).login? w id).filter fun l => decide (later < l.2) := by
  rw [StoreModel.login?, StoreModel.login?, view_later h]
  cases (model ids most ttl now outside).view w id with
  | none => rfl
  | some e =>
    obtain ⟨⟨id', principal⟩, deadline⟩ := e
    rw [Option.filter_some, Option.bind_some]
    cases principal <;> by_cases hd : later < deadline <;> simp [hd, Option.filter_some]

end Laws

/-! ### Small worlds -/

/-- A supply that counts upwards. -/
def counting (n : Nat) : SessionId := ⟨BitVec.ofNat 128 n⟩

theorem injOn_counting {most : Nat} (h : most ≤ 2 ^ 128) :
    Set.InjOn counting (Set.Iio most) := by
  intro i (hi : i < most) j (hj : j < most) hij
  rw [counting, counting, SessionId.mk.injEq] at hij
  have hval := congrArg BitVec.toNat hij
  rwa [BitVec.toNat_ofNat, BitVec.toNat_ofNat, Nat.mod_eq_of_lt (by omega),
    Nat.mod_eq_of_lt (by omega)] at hval

/-- Somebody who may do nothing. -/
def alice : Principal := ⟨"alice", .empty⟩

/-- A world in which one session was made that somebody is logged in with. -/
def holding (p : Principal) : World Unit where
  store := ⟨60, [(counting 0, ⟨⟨counting 0, some p⟩, 60000⟩)]⟩
  clock := 0
  drawn := 1
  outside := ()

/-- A world with the entry of one session, the first that was made, is sound. -/
theorem sound_of_single {w : World Unit} {e : MemoryEntry} (hdrawn : w.drawn = 1)
    (hw : w.store.entries = [(counting 0, e)]) (he : e.session.id = counting 0) :
    w.Sound counting := by
  have hfind (id : SessionId) (e' : MemoryEntry) (he' : w.store.find? id = some e') :
      counting 0 = id ∧ e'.session.id = id := by
    rw [MemoryStore.find?, hw, List.lookup_cons] at he'
    split at he'
    · rename_i hid
      rw [← Option.some.inj he', he, beq_iff_eq.1 hid]
      exact ⟨rfl, rfl⟩
    · exact absurd he' (by simp)
  refine ⟨⟨?_, fun id e' he' => (hfind id e' he').2⟩, fun id e' he' => ⟨0, ?_, (hfind id e' he').1⟩⟩
  · rw [hw]
    exact List.pairwise_singleton _ _
  · rw [hdrawn]
    exact Nat.one_pos

theorem sound_holding (p : Principal) : (holding p).Sound counting := sound_of_single rfl rfl rfl

theorem valid_holding (p : Principal) : (model counting 1 60 0 ()).valid 0 (holding p) :=
  ⟨sound_holding p, rfl, rfl, rfl, Nat.le_refl 1⟩

end World

end WebLogin
