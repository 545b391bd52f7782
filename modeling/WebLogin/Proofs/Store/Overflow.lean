/-
Computations that break off.

A store in memory writes a deadline into every session that it makes or saves. If that lies too far
ahead for the clock, the call breaks off, and with it whatever has made the call. No other call of
the store does.

* `BreaksOff.bind_iff` — when two steps together break off;
* `World.create_breaksOff_iff`, `World.save_breaksOff_iff` — when a call does;
* `World.Steady` — what breaks off for no other reason.
-/
import WebLogin.Proofs.Store.LiveMap
import WebLogin.Proofs.Store.Occupancy

namespace WebLogin

/-- A computation, started in a state, breaks off. -/
def BreaksOff {σ ε α : Type} (x : StateT σ (Except ε) α) (s : σ) : Prop := ∃ e, x.run s = .error e

namespace BreaksOff

variable {σ ε α β : Type} {s s' : σ} {a : α} {x : StateT σ (Except ε) α}
  {f : α → StateT σ (Except ε) β}

theorem not_of_yields (h : Yields x s a s') : ¬BreaksOff x s := by
  rintro ⟨e, he⟩
  have hboth := h.symm.trans he
  cases hboth

theorem not_pure (a : α) (s : σ) : ¬BreaksOff (pure a : StateT σ (Except ε) α) s :=
  not_of_yields (.pure a s)

/-- Two steps break off if the first one does, or the second one after the first. -/
theorem bind_iff : BreaksOff (x >>= f) s ↔
    BreaksOff x s ∨ ∃ a s', Yields x s a s' ∧ BreaksOff (f a) s' := by
  have hrun : (x >>= f).run s = x.run s >>= fun p => (f p.1).run p.2 := rfl
  constructor
  · rintro ⟨e, he⟩
    rw [hrun] at he
    cases hx : x.run s with
    | error e' => exact .inl ⟨e', hx⟩
    | ok p =>
      rw [hx] at he
      exact .inr ⟨p.1, p.2, hx, e, he⟩
  · rintro (⟨e, he⟩ | ⟨a, s', hx, e, he⟩)
    · exact ⟨e, by rw [hrun, he]; rfl⟩
    · have hok : x.run s = .ok (a, s') := hx
      exact ⟨e, by rw [hrun, hok]; exact he⟩

theorem bind_iff_of_yields (h : Yields x s a s') :
    BreaksOff (x >>= f) s ↔ BreaksOff (f a) s' := by
  rw [bind_iff]
  constructor
  · rintro (hx | ⟨a', s'', hx, hf⟩)
    · exact absurd hx (not_of_yields h)
    · obtain ⟨rfl, rfl⟩ := hx.eq h
      exact hf
  · exact fun hf => .inr ⟨a, s', h, hf⟩

/-- Two steps of which the second never breaks off. -/
theorem bind_iff_left (hf : ∀ a s', ¬BreaksOff (f a) s') :
    BreaksOff (x >>= f) s ↔ BreaksOff x s := by
  rw [bind_iff]
  refine ⟨fun h => h.resolve_right ?_, .inl⟩
  rintro ⟨a, s', -, hrest⟩
  exact hf a s' hrest

end BreaksOff

namespace World

variable {α β γ : Type} {ids : Nat → SessionId} {w w' w'' : World α} {id : SessionId} {x : Session}

/-- The deadline of a session that is written now lies too far ahead for the clock. -/
def Overflows (w : World α) : Prop := Uptime.lastSecond < w.clock / 1000 + w.store.ttl

/-! ### Calls of the store -/

theorem exists_error_map_iff {ε : Type} {y : Except ε β} {f : β → γ} :
    (∃ e, y.map f = .error e) ↔ ∃ e, y = .error e := by
  cases y <;> simp [Except.map]

theorem update_breaksOff_iff {op : MemoryStore → Except ClockOverflow (β × MemoryStore)} :
    BreaksOff (MemoryStore.update op : Run α β) w ↔ ∃ e, op w.store = .error e := by
  have hget : Yields (getThe MemoryStore : Run α MemoryStore) w w.store w := rfl
  have hupdate : BreaksOff (MemoryStore.update op : Run α β) w ↔ _ :=
    BreaksOff.bind_iff_of_yields hget
  rw [hupdate]
  cases hop : op w.store with
  | ok p =>
    have hends : ¬BreaksOff (MemoryStore.update op : Run α β) w :=
      BreaksOff.not_of_yields (update_yields hop)
    rw [hupdate, hop] at hends
    simpa using hends
  | error e =>
    have hthrow : BreaksOff (throw e : Run α β) w := ⟨e, rfl⟩
    exact iff_of_true hthrow ⟨e, rfl⟩

theorem put_eq_error_iff {s : MemoryStore} {now : Uptime} :
    (∃ e, s.put now x = .error e) ↔ Uptime.lastSecond < now / 1000 + s.ttl := by
  by_cases h : now / 1000 + s.ttl ≤ Uptime.lastSecond
  · rw [MemoryStore.put_eq h]
    simpa using h
  · rw [MemoryHost.put_of_not_writable h]
    exact iff_of_true ⟨_, rfl⟩ (Nat.not_le.1 h)

/-- Making a session breaks off exactly if its deadline lies too far ahead. -/
theorem create_breaksOff_iff : BreaksOff (sessionStore ids).create w ↔ w.Overflows := by
  have hdraw : Yields (freshId ids) w (ids w.drawn) { w with drawn := w.drawn + 1 } := rfl
  have hrun : BreaksOff (sessionStore ids).create w ↔
      BreaksOff (MemoryStore.update fun s => s.create w.clock (ids w.drawn) : Run α Session)
        { w with drawn := w.drawn + 1 } := by
    refine (BreaksOff.bind_iff_of_yields (clock_yields w)).trans ?_
    refine (BreaksOff.bind_iff_of_yields hdraw).trans ?_
    exact BreaksOff.bind_iff_left fun _ _ => BreaksOff.not_pure _ _
  rw [hrun, update_breaksOff_iff]
  exact exists_error_map_iff.trans put_eq_error_iff

/-- Saving a session breaks off exactly if the session is there and its deadline lies too far
ahead. -/
theorem save_breaksOff_iff : BreaksOff ((sessionStore ids).save x) w ↔
    w.Overflows ∧ (w.store.live w.clock x.id).isSome := by
  have hrun : BreaksOff ((sessionStore ids).save x) w ↔
      BreaksOff (MemoryStore.update fun s => s.save w.clock x : Run α _) w :=
    BreaksOff.bind_iff_of_yields (clock_yields w)
  rw [hrun, update_breaksOff_iff]
  cases hlive : w.store.live w.clock x.id with
  | none =>
    rw [MemoryStore.save_eq_of_missing hlive]
    simp
  | some entry =>
    have hput : (∃ e, w.store.put w.clock x = .error e) ↔ w.Overflows := put_eq_error_iff
    rw [MemoryStore.save_of_live (by rw [hlive]; rfl), exists_error_map_iff, hput]
    simp

theorem get_not_breaksOff (w : World α) (id : SessionId) :
    ¬BreaksOff ((sessionStore ids).get id) w :=
  BreaksOff.not_of_yields (get_ends w id)

theorem invalidate_ends (w : World α) (id : SessionId) :
    Yields ((sessionStore ids).invalidate id) w (.ok ())
      { w with store := w.store.invalidate id } :=
  (update_yields rfl).bind (.pure _ _)

/-! ### What does no harm to the clock -/

/-- The clock stands where it did and sessions live as long as they did. -/
structure Kept (w w' : World α) : Prop where
  clock : w'.clock = w.clock
  ttl : w'.store.ttl = w.store.ttl
  sound : w.store.Sound → w'.store.Sound

theorem Kept.refl (w : World α) : w.Kept w := ⟨rfl, rfl, id⟩

theorem Kept.trans (h : w.Kept w') (h' : w'.Kept w'') : w.Kept w'' where
  clock := h'.clock.trans h.clock
  ttl := h'.ttl.trans h.ttl
  sound hw := h'.sound (h.sound hw)

theorem Kept.overflows_iff (h : w.Kept w') : w'.Overflows ↔ w.Overflows := by
  rw [Overflows, Overflows, h.clock, h.ttl]

/-- The computation keeps the clock and the lifetime of sessions, and it breaks off only if sessions
are kept at all and a deadline lies too far ahead. -/
structure Steady (persists : Prop) (x : Run α β) : Prop where
  kept : ∀ {w b w'}, Yields x w b w' → w.Kept w'
  breaksOff : ∀ {w}, BreaksOff x w → persists ∧ w.Overflows

namespace Steady

variable {persists : Prop}

theorem pure (b : β) : Steady persists (pure b : Run α β) where
  kept h := by
    obtain ⟨-, rfl⟩ := h.eq (.pure _ _)
    exact .refl _
  breaksOff h := absurd h (BreaksOff.not_pure _ _)

theorem bind {x : Run α β} {f : β → Run α γ} (hx : Steady persists x)
    (hf : ∀ b, Steady persists (f b)) : Steady persists (x >>= f) where
  kept h := by
    obtain ⟨b, w₁, hfirst, hrest⟩ := h.of_bind
    exact (hx.kept hfirst).trans ((hf b).kept hrest)
  breaksOff h := by
    rcases BreaksOff.bind_iff.1 h with hfirst | ⟨b, w₁, hfirst, hrest⟩
    · exact hx.breaksOff hfirst
    · obtain ⟨hpersists, hlate⟩ := (hf b).breaksOff hrest
      exact ⟨hpersists, (hx.kept hfirst).overflows_iff.1 hlate⟩

/-- What is steady even where no sessions are kept never breaks off. -/
theorem not_breaksOff {x : Run α β} (h : Steady False x) (w : World α) : ¬BreaksOff x w :=
  fun hbreaks => (h.breaksOff hbreaks).1

/-- What always comes to an end is steady. -/
theorem of_ends {x : Run α β} (h : ∀ w, ∃ b w', Yields x w b w' ∧ w.Kept w') :
    Steady persists x where
  kept {w _ _} hx := by
    obtain ⟨b, w₁, hends, hkept⟩ := h w
    obtain ⟨-, rfl⟩ := hx.eq hends
    exact hkept
  breaksOff {w} hx := by
    obtain ⟨b, w₁, hends, -⟩ := h w
    exact absurd hx (BreaksOff.not_of_yields hends)

theorem get (id : SessionId) : Steady persists ((sessionStore ids).get id : Run α _) :=
  of_ends fun w => ⟨_, _, get_ends w id, rfl, MemoryStore.ttl_get .., fun hw => hw.get _ _⟩

theorem invalidate (id : SessionId) :
    Steady persists ((sessionStore ids).invalidate id : Run α _) :=
  of_ends fun w => ⟨_, _, invalidate_ends w id, rfl, rfl, fun hw => hw.erase id⟩

theorem create (hpersists : persists) : Steady persists ((sessionStore ids).create : Run α _) where
  kept {w _ _} h := by
    obtain ⟨now, w₁, hnow, hrest⟩ := h.of_bind
    obtain ⟨rfl, rfl⟩ := hnow.eq (clock_yields w)
    obtain ⟨id, w₂, hid, hrest⟩ := hrest.of_bind
    have hdraw : Yields (freshId ids) w₁ (ids w₁.drawn) { w₁ with drawn := w₁.drawn + 1 } := rfl
    obtain ⟨rfl, rfl⟩ := hid.eq hdraw
    obtain ⟨x, w₃, hupdate, hrest⟩ := hrest.of_bind
    obtain ⟨s, hcreate, rfl⟩ := of_update hupdate
    obtain ⟨-, rfl⟩ := hrest.eq (.pure _ _)
    obtain ⟨-, rfl⟩ := MemoryStore.create_eq_ok hcreate
    exact ⟨rfl, rfl, fun hw => (hw.purge _).insert rfl⟩
  breaksOff h := ⟨hpersists, create_breaksOff_iff.1 h⟩

theorem save (hpersists : persists) (x : Session) :
    Steady persists ((sessionStore ids).save x : Run α _) where
  kept {w _ _} h := by
    obtain ⟨now, w₁, hnow, hupdate⟩ := h.of_bind
    obtain ⟨rfl, rfl⟩ := hnow.eq (clock_yields w)
    obtain ⟨s, hsave, rfl⟩ := of_update hupdate
    rcases MemoryStore.save_eq_ok hsave with ⟨-, -, rfl⟩ | ⟨-, -, rfl⟩
    · exact ⟨rfl, rfl, fun hw => hw.insert rfl⟩
    · exact .refl _
  breaksOff h := ⟨hpersists, (save_breaksOff_iff.1 h).1⟩

end Steady

end World

end WebLogin
