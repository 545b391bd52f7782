/-
Who is in the sessions of a world, expired ones included.

A call of the store that has come to an end says what it did, whatever the clock shows and however
long sessions live. All that matters here is who is in which session: a session that nobody is in
stays so until somebody is saved in it.

* `World.get_of_yields`, `World.save_of_yields` — what a call did that has ended;
* `World.Calm`, `World.Rests` — nobody was put into any session;
* `World.Shifts` — nobody was put into a session but the one that a request ends in, and the one
  that it has left is empty;
* `World.Settles` — a request that nobody was logged in with leaves like that.
-/
import WebLogin.Proofs.Concurrency.Memory
import WebLogin.Proofs.Store.World

namespace WebLogin

namespace World

variable {α : Type} {ids : Nat → SessionId} {w w' w'' : World α} {id : SessionId}
  {old mid new : Option SessionId}

/-- The id was drawn from the supply. -/
def Drawn (ids : Nat → SessionId) (w : World α) (id : SessionId) : Prop :=
  ∃ i < w.drawn, ids i = id

/-- Nobody is in the session, if it is there at all. -/
def Vacant (w : World α) (id : SessionId) : Prop :=
  ∀ e, w.store.find? id = some e → e.session.principal = none

theorem Drawn.mono (h : Drawn ids w id) (hle : w.drawn ≤ w'.drawn) : Drawn ids w' id := by
  obtain ⟨i, hi, hid⟩ := h
  exact ⟨i, Nat.lt_of_lt_of_le hi hle, hid⟩

theorem vacant_of_find?_eq_none (h : w.store.find? id = none) : w.Vacant id := by
  intro e he
  rw [h] at he
  cases he

/-- From one world to the other, nobody was put into any session. -/
structure Calm (ids : Nat → SessionId) (w w' : World α) : Prop where
  sound : w'.Sound ids
  drawn : w.drawn ≤ w'.drawn
  vacant : ∀ {id}, w.Vacant id → w'.Vacant id

/-- A request has stayed in its session, or given it up with nobody in it. Nobody was put into any
session. -/
structure Rests (ids : Nat → SessionId) (old new : Option SessionId) (w w' : World α) : Prop where
  calm : Calm ids w w'
  session : new = old ∨ new = none ∧ ∀ {id}, old = some id → w'.Vacant id

/-- A request has gone from one session to another, or stayed where it was. Nobody was put into a
session that it has not come to, and nobody is left in a session that it has left. -/
structure Shifts (ids : Nat → SessionId) (old new : Option SessionId) (w w' : World α) : Prop where
  sound : w'.Sound ids
  drawn : w.drawn ≤ w'.drawn
  origin : ∀ {id}, new = some id → old = some id ∨ ∃ i, w.drawn ≤ i ∧ i < w'.drawn ∧ ids i = id
  kept : ∀ {id}, old ≠ some id → new ≠ some id → w.Vacant id → w'.Vacant id
  left : ∀ {id}, old = some id → new ≠ some id → w'.Vacant id

/-- A request has no session, or one that was drawn and that nobody is in. -/
def Idle (ids : Nat → SessionId) (w : World α) (session : Option SessionId) : Prop :=
  ∀ id, session = some id → Drawn ids w id ∧ w.Vacant id

/-- Nobody was put into any session, and a request that came with nobody in its session leaves with
nobody in its session. -/
structure Settles (ids : Nat → SessionId) (old new : Option SessionId) (w w' : World α) : Prop where
  calm : Calm ids w w'
  idle : Idle ids w old → Idle ids w' new

theorem Calm.refl (h : w.Sound ids) : Calm ids w w := ⟨h, Nat.le_refl _, fun h => h⟩

theorem Calm.trans (h : Calm ids w w') (h' : Calm ids w' w'') : Calm ids w w'' :=
  ⟨h'.sound, Nat.le_trans h.drawn h'.drawn, fun hid => h'.vacant (h.vacant hid)⟩

theorem Calm.rests (h : Calm ids w w') (old : Option SessionId) : Rests ids old old w w' :=
  ⟨h, .inl rfl⟩

theorem Rests.trans (h : Rests ids old mid w w') (h' : Rests ids mid new w' w'') :
    Rests ids old new w w'' where
  calm := h.calm.trans h'.calm
  session := by
    rcases h.session with rfl | ⟨rfl, hvacant⟩
    · exact h'.session
    · refine .inr ⟨?_, fun hid => h'.calm.vacant (hvacant hid)⟩
      rcases h'.session with rfl | ⟨rfl, -⟩ <;> rfl

theorem Rests.moves (h : Rests ids old new w w') : Shifts ids old new w w' where
  sound := h.calm.sound
  drawn := h.calm.drawn
  origin {id} hnew := by
    rcases h.session with rfl | ⟨rfl, -⟩
    · exact .inl hnew
    · cases hnew
  kept _ _ := h.calm.vacant
  left hold hnew := by
    rcases h.session with rfl | ⟨-, hvacant⟩
    · exact absurd hold hnew
    · exact hvacant hold

theorem Shifts.trans (h : Shifts ids old mid w w') (h' : Shifts ids mid new w' w'') :
    Shifts ids old new w w'' where
  sound := h'.sound
  drawn := Nat.le_trans h.drawn h'.drawn
  origin hnew := by
    rcases h'.origin hnew with hmid | ⟨i, hi, hlt, hid⟩
    · rcases h.origin hmid with hold | ⟨i, hi, hlt, hid⟩
      · exact .inl hold
      · exact .inr ⟨i, hi, Nat.lt_of_lt_of_le hlt h'.drawn, hid⟩
    · exact .inr ⟨i, Nat.le_trans h.drawn hi, hlt, hid⟩
  kept {id} hold hnew hvacant := by
    by_cases hmid : mid = some id
    · exact h'.left hmid hnew
    · exact h'.kept hmid hnew (h.kept hold hmid hvacant)
  left {id} hold hnew := by
    by_cases hmid : mid = some id
    · exact h'.left hmid hnew
    · exact h'.kept hmid hnew (h.left hold hmid)

theorem Idle.mono (h : Idle ids w old) (hcalm : Calm ids w w') : Idle ids w' old := fun id hid =>
  ⟨(h id hid).1.mono hcalm.drawn, hcalm.vacant (h id hid).2⟩

theorem Settles.trans (h : Settles ids old mid w w') (h' : Settles ids mid new w' w'') :
    Settles ids old new w w'' :=
  ⟨h.calm.trans h'.calm, fun hidle => h'.idle (h.idle hidle)⟩

theorem Rests.settles (h : Rests ids old new w w') : Settles ids old new w w' where
  calm := h.calm
  idle hidle := by
    rcases h.session with rfl | ⟨rfl, -⟩
    · exact hidle.mono h.calm
    · exact fun id hid => by cases hid

/-- It is as if nobody had been put anywhere if the session that a request has moved to is emptied
after that. -/
theorem Shifts.settles (h : Shifts ids old mid w w') (hcalm : Calm ids w' w'')
    (hvacant : ∀ id, mid = some id → w''.Vacant id) : Settles ids old mid w w'' where
  calm := by
    refine ⟨hcalm.sound, Nat.le_trans h.drawn hcalm.drawn, fun {id} hid => ?_⟩
    by_cases hmid : mid = some id
    · exact hvacant id hmid
    · by_cases hold : old = some id
      · exact hcalm.vacant (h.left hold hmid)
      · exact hcalm.vacant (h.kept hold hmid hid)
  idle hidle id hid := by
    refine ⟨Drawn.mono ?_ hcalm.drawn, hvacant id hid⟩
    rcases h.origin hid with hold | ⟨i, -, hlt, hfresh⟩
    · exact (hidle id hold).1.mono h.drawn
    · exact ⟨i, hlt, hfresh⟩

/-- Where all ids that were drawn differ, a request that came without some session does not end in
it. -/
theorem Shifts.ne_of_drawn (h : Shifts ids old new w w') (hids : Set.InjOn ids (Set.Iio w'.drawn))
    (hid : Drawn ids w id) (hold : old ≠ some id) : new ≠ some id := by
  intro hnew
  rcases h.origin hnew with hsame | ⟨i, hi, hlt, hfresh⟩
  · exact hold hsame
  · obtain ⟨j, hj, rfl⟩ := hid
    have hlt' : j < w'.drawn := Nat.lt_of_lt_of_le hj h.drawn
    have heq : i = j := hids hlt hlt' hfresh
    omega

/-! ### Calls that have ended -/

theorem of_update {β : Type} {op : MemoryStore → Except ClockOverflow (β × MemoryStore)} {b : β}
    (h : Yields (MemoryStore.update op : Run α β) w b w') :
    ∃ s, op w.store = .ok (b, s) ∧ w' = { w with store := s } := by
  cases hop : op w.store with
  | error e =>
    have hthrow : Yields (getThe MemoryStore >>= fun _ => throw e : Run α β) w b w' := by
      have hget : Yields (getThe MemoryStore : Run α MemoryStore) w w.store w := rfl
      obtain ⟨s, w₁, hs, hrest⟩ := h.of_bind
      obtain ⟨rfl, rfl⟩ := hs.eq hget
      rw [hop] at hrest
      exact hget.bind hrest
    cases hthrow
  | ok p =>
    obtain ⟨b', s⟩ := p
    obtain ⟨rfl, rfl⟩ := h.eq (update_yields hop)
    exact ⟨s, rfl, rfl⟩

theorem create_of_yields (hw : w.Sound ids) {r : Except StoreError Session}
    (h : Yields (sessionStore ids).create w r w') :
    r = .ok (.fresh (ids w.drawn)) ∧ Calm ids w w' ∧ w'.drawn = w.drawn + 1 ∧
      w'.Vacant (ids w.drawn) := by
  obtain ⟨now, w₁, hnow, hrest⟩ := h.of_bind
  obtain ⟨rfl, rfl⟩ := hnow.eq (clock_yields w)
  obtain ⟨id, w₂, hid, hrest⟩ := hrest.of_bind
  have hdraw : Yields (freshId ids) w₁ (ids w₁.drawn) { w₁ with drawn := w₁.drawn + 1 } := rfl
  obtain ⟨rfl, rfl⟩ := hid.eq hdraw
  obtain ⟨x, w₃, hupdate, hrest⟩ := hrest.of_bind
  obtain ⟨s, hcreate, rfl⟩ := of_update hupdate
  obtain ⟨rfl, rfl⟩ := hrest.eq (.pure _ _)
  obtain ⟨rfl, rfl⟩ := MemoryStore.create_eq_ok hcreate
  have hfind (id : SessionId) (e : MemoryEntry) (he : ((w₁.store.purge w₁.clock).insert
      (ids w₁.drawn) ⟨.fresh (ids w₁.drawn), w₁.clock + 1000 * w₁.store.ttl⟩).find? id = some e) :
      (id = ids w₁.drawn ∧ e.session = .fresh id) ∨ w₁.store.find? id = some e := by
    rw [MemoryStore.find?_insert] at he
    split at he
    · rename_i hid
      exact .inl ⟨hid, by rw [← Option.some.inj he, hid]⟩
    · rw [MemoryStore.find?_purge hw.store, MemoryStore.live_eq_some_iff] at he
      exact .inr he.1
  refine ⟨rfl, ⟨⟨(hw.store.purge _).insert rfl, ?_⟩, Nat.le_succ _, ?_⟩, rfl, ?_⟩
  · intro id e he
    rcases hfind id e he with ⟨rfl, -⟩ | he
    · exact ⟨w₁.drawn, Nat.lt_succ_self _, rfl⟩
    · obtain ⟨i, hi, hid⟩ := hw.drawn id e he
      exact ⟨i, Nat.lt_succ_of_lt hi, hid⟩
  · intro id hvacant e he
    rcases hfind id e he with ⟨-, hfresh⟩ | he
    · rw [hfresh]
      rfl
    · exact hvacant e he
  · intro e he
    rw [MemoryStore.find?_insert, if_pos rfl] at he
    rw [← Option.some.inj he]
    rfl

/-- A look-up always comes to an end. -/
theorem get_ends (w : World α) (id : SessionId) :
    Yields ((sessionStore ids).get id) w (.ok (w.store.get w.clock id).1)
      { w with store := (w.store.get w.clock id).2 } :=
  (clock_yields w).bind ((update_yields rfl).bind (.pure _ _))

/-- A look-up has found a live session and changed nothing, or the session is not there any
more. -/
theorem get_of_yields (hw : w.Sound ids) {r : Except StoreError (Option Session)}
    (h : Yields ((sessionStore ids).get id) w r w') :
    (∃ e, w.store.live w.clock id = some e ∧ r = .ok (some e.session) ∧ w' = w) ∨
      r = .ok none ∧ Calm ids w w' ∧ w'.store.find? id = none ∧ w'.drawn = w.drawn := by
  obtain ⟨rfl, rfl⟩ := h.eq (get_ends w id)
  cases hlive : w.store.live w.clock id with
  | some e =>
    refine .inl ⟨e, rfl, ?_, ?_⟩
    · rw [MemoryStore.get_fst, hlive]
      rfl
    · rcases MemoryStore.get_snd w.store w.clock id with hsame | ⟨-, hnone⟩
      · rw [hsame]
      · rw [hlive] at hnone
        cases hnone
  | none =>
    have hnone : (w.store.get w.clock id).1 = none := by
      rw [MemoryStore.get_fst, hlive]
      rfl
    have hfind (id' : SessionId) (e : MemoryEntry)
        (he : (w.store.get w.clock id).2.find? id' = some e) : w.store.find? id' = some e := by
      rcases MemoryStore.get_snd w.store w.clock id with hsame | ⟨hsame, -⟩
      · rwa [hsame] at he
      · rw [hsame, MemoryStore.find?_erase] at he
        split at he
        · cases he
        · exact he
    refine .inr ⟨by rw [hnone], ⟨⟨hw.store.get _ id, ?_⟩, Nat.le_refl _, ?_⟩,
      MemoryStore.find?_get hnone, rfl⟩
    · exact fun id' e he => hw.drawn id' e (hfind id' e he)
    · exact fun hvacant e he => hvacant e (hfind _ e he)

/-- A session has been saved if it was there, and otherwise nothing has changed. -/
theorem save_of_yields (hw : w.Sound ids) {x : Session} {r : Except StoreError Unit}
    (h : Yields ((sessionStore ids).save x) w r w') :
    (r = .ok () ∧ w'.Sound ids ∧ w'.drawn = w.drawn ∧
        ∃ deadline, w'.store = w.store.insert x.id ⟨x, deadline⟩) ∨
      w.store.live w.clock x.id = none ∧ r = .error .sessionNotFound ∧ w' = w := by
  obtain ⟨now, w₁, hnow, hupdate⟩ := h.of_bind
  obtain ⟨rfl, rfl⟩ := hnow.eq (clock_yields w)
  obtain ⟨s, hsave, rfl⟩ := of_update hupdate
  rcases MemoryStore.save_eq_ok hsave with ⟨hlive, rfl, rfl⟩ | ⟨hmissing, rfl, rfl⟩
  · refine .inl ⟨rfl, ⟨hw.store.insert rfl, ?_⟩, rfl, _, rfl⟩
    intro id e he
    rw [MemoryStore.find?_insert] at he
    split at he
    · rename_i hid
      obtain ⟨e', he'⟩ := Option.isSome_iff_exists.1 hlive
      rw [hid]
      exact hw.drawn x.id e' (MemoryStore.live_eq_some_iff.1 he').1
    · exact hw.drawn id e he
  · exact .inr ⟨hmissing, rfl, rfl⟩

/-- Whoever is saved in one session is in no other. -/
theorem vacant_insert {x : Session} {deadline : Uptime}
    (hstore : w'.store = w.store.insert x.id ⟨x, deadline⟩)
    (h : x.id = id ∧ x.principal = none ∨ x.id ≠ id ∧ w.Vacant id) : w'.Vacant id := by
  intro e he
  rw [hstore, MemoryStore.find?_insert] at he
  rcases h with ⟨rfl, hnobody⟩ | ⟨hne, hvacant⟩
  · rw [if_pos rfl] at he
    rw [← Option.some.inj he]
    exact hnobody
  · rw [if_neg (Ne.symm hne)] at he
    exact hvacant e he

theorem invalidate_of_yields (hw : w.Sound ids) {r : Except StoreError Unit}
    (h : Yields ((sessionStore ids).invalidate id) w r w') :
    r = .ok () ∧ Calm ids w w' ∧ w'.Vacant id ∧ w'.drawn = w.drawn := by
  have hrun : Yields ((sessionStore ids).invalidate id) w (.ok ())
      { w with store := w.store.invalidate id } := (update_yields rfl).bind (.pure _ _)
  obtain ⟨rfl, rfl⟩ := h.eq hrun
  have hfind (id' : SessionId) (e : MemoryEntry)
      (he : (w.store.invalidate id).find? id' = some e) : w.store.find? id' = some e := by
    rw [MemoryStore.invalidate, MemoryStore.find?_erase] at he
    split at he
    · cases he
    · exact he
  refine ⟨rfl, ⟨⟨hw.store.erase id, ?_⟩, Nat.le_refl _, ?_⟩, ?_, rfl⟩
  · exact fun id' e he => hw.drawn id' e (hfind id' e he)
  · exact fun hvacant e he => hvacant e (hfind _ e he)
  · exact vacant_of_find?_eq_none ((MemoryStore.find?_erase id).trans (if_pos rfl))

end World

end WebLogin
