/-
A session store whose calls fail when a schedule says so.

A call that fails does nothing else. Seen as a map, the store is the one behind it, together with a
bound on the failures that are still to come: a call keeps its promise and the bound, or it fails
and the bound gets smaller. Once no failure is left, the store keeps the laws of a map.

* `falter_cases` — a call fails, or is the call of the store behind it;
* `StoreModel.Laws.create_falters`, `get_falters`, `save_falters`, `invalidate_falters` — what each
  call does while failures may still come;
* `StoreModel.Laws.faulty_any` — the laws of a store any of whose calls may fail;
* `StoreModel.Laws.faulty` — the laws once no failure is left.
-/
import WebLogin.Proofs.Session.Steps

namespace WebLogin

variable {σ τ ε α : Type}

/-- Whether the next calls fail, one after the other, and with which error. Those that come after
them do not. -/
abbrev Schedule := List (Option StoreError)

/-- How many calls are still to fail. -/
def Schedule.failures (plan : Schedule) : Nat := plan.countP Option.isSome

/-- A call that fails if it is its turn to. -/
def falter (call : StateT σ (Except ε) (Except StoreError α)) :
    StateT (σ × Schedule) (Except ε) (Except StoreError α) := fun w =>
  match w.2 with
  | some e :: rest => .ok (.error e, w.1, rest)
  | plan => (call.run w.1).map fun r => (r.1, r.2, plan.tail)

def SessionStore.faulty (store : SessionStore (StateT σ (Except ε))) :
    SessionStore (StateT (σ × Schedule) (Except ε)) where
  create := falter store.create
  get id := falter (store.get id)
  save x := falter (store.save x)
  invalidate id := falter (store.invalidate id)

theorem falter_cases (call : StateT σ (Except ε) (Except StoreError α)) (w : σ × Schedule) :
    (∃ e plan, plan.failures + 1 = w.2.failures ∧ Yields (falter call) w (.error e) (w.1, plan)) ∨
    ∃ plan, plan.failures = w.2.failures ∧
      ∀ {a s'}, Yields call w.1 a s' → Yields (falter call) w a (s', plan) := by
  obtain ⟨s, plan⟩ := w
  have hgoes {a : Except StoreError α} {s' : σ} (hcall : Yields call s a s') :
      (call.run s).map (fun r => (r.1, r.2, plan.tail)) = .ok (a, s', plan.tail) := by
    rw [hcall]
    rfl
  rcases plan with _ | ⟨_ | e, rest⟩
  · exact .inr ⟨[], rfl, hgoes⟩
  · exact .inr ⟨rest, (List.countP_cons_of_neg (by simp)).symm, hgoes⟩
  · exact .inl ⟨e, rest, (List.countP_cons_of_pos rfl).symm, rfl⟩

namespace StoreModel

/-- The sessions of a store that fails at most so many times more. -/
def faulty (M : StoreModel σ τ) (most : Nat) : StoreModel (σ × Schedule) τ where
  valid k w := M.valid k w.1 ∧ w.2.failures ≤ most
  view w := M.view w.1
  known w := M.known w.1
  stamp := M.stamp

/-- A call fails, which is one failure less to come. -/
def Falters (M : StoreModel σ τ) (most k : Nat) (w : σ × Schedule)
    (call : StateT (σ × Schedule) (Except ε) (Except StoreError α)) : Prop :=
  ∃ fewer, most = fewer + 1 ∧ (M.faulty fewer).Refuses k w call

variable {M : StoreModel σ τ} {store : SessionStore (StateT σ (Except ε))} {most k : Nat}
  {w : σ × Schedule}

theorem not_falters {call : StateT (σ × Schedule) (Except ε) (Except StoreError α)} :
    ¬M.Falters 0 k w call := by
  rintro ⟨fewer, hfewer, -⟩
  exact absurd hfewer (by omega)

/-- The one call that fails was the only one. -/
theorem Falters.last {call : StateT (σ × Schedule) (Except ε) (Except StoreError α)}
    (h : M.Falters 1 k w call) : (M.faulty 0).Refuses k w call := by
  obtain ⟨fewer, hfewer, hrefuses⟩ := h
  obtain rfl : fewer = 0 := by omega
  exact hrefuses

theorem faulty_mono {fewer : Nat} (h : fewer ≤ most) (hw : (M.faulty fewer).valid k w) :
    (M.faulty most).valid k w :=
  ⟨hw.1, Nat.le_trans hw.2 h⟩

/-- There may be fewer failures to come than are allowed. -/
theorem Falters.refuses {call : StateT (σ × Schedule) (Except ε) (Except StoreError α)}
    (h : M.Falters most k w call) : (M.faulty most).Refuses k w call := by
  obtain ⟨fewer, rfl, e, w', hfails, hsame⟩ := h
  exact ⟨e, w', hfails, faulty_mono (Nat.le_succ fewer) hsame.valid, hsame.view, hsame.known⟩

/-- Whatever call it is that fails, it was one of those that the schedule had left. -/
theorem falters_or {call : StateT σ (Except ε) (Except StoreError α)} {a : Except StoreError α}
    {s' : σ} (hw : (M.faulty most).valid k w) (hcall : Yields call w.1 a s') :
    (∃ plan, Yields (falter call) w a (s', plan) ∧ plan.failures ≤ most) ∨
      M.Falters most k w (falter call) := by
  obtain ⟨hvalid, hmost⟩ := hw
  rcases falter_cases call w with ⟨e, plan, hplan, hfails⟩ | ⟨plan, hplan, hgoes⟩
  · refine .inr ⟨most - 1, by omega, e, (w.1, plan), hfails, ⟨hvalid, ?_⟩, rfl, rfl⟩
    show plan.failures ≤ most - 1
    omega
  · exact .inl ⟨plan, hgoes hcall, hplan ▸ hmost⟩

namespace Laws

theorem weaken_faulty (h : M.Laws store fun _ => False) (hw : (M.faulty most).valid (k + 1) w) :
    (M.faulty most).valid k w := ⟨h.weaken hw.1, hw.2⟩

theorem create_falters (h : M.Laws store fun _ => False) (hw : (M.faulty most).valid (k + 1) w) :
    (∃ id w', Yields store.faulty.create w (.ok (.fresh id)) w' ∧
      (M.faulty most).Creates k w id w') ∨ M.Falters most (k + 1) w store.faulty.create := by
  obtain ⟨id, s', hcall, hc⟩ := h.create_yields not_false hw.1
  refine (falters_or hw hcall).imp_left ?_
  rintro ⟨plan, hgoes, hmost⟩
  exact ⟨id, (s', plan), hgoes, ⟨hc.valid, hmost⟩, hc.fresh, hc.view, hc.known⟩

theorem get_falters (h : M.Laws store fun _ => False) (hw : (M.faulty most).valid k w)
    (id : SessionId) :
    (∃ w', Yields (store.faulty.get id) w (.ok ((M.faulty most).session? w id)) w' ∧
      (M.faulty most).Same k w w') ∨ M.Falters most k w (store.faulty.get id) := by
  obtain ⟨s', hcall, hsame⟩ := h.get_yields not_false hw.1 id
  refine (falters_or hw hcall).imp_left ?_
  rintro ⟨plan, hgoes, hmost⟩
  exact ⟨(s', plan), hgoes, ⟨hsame.valid, hmost⟩, hsame.view, hsame.known⟩

theorem save_falters (h : M.Laws store fun _ => False) (hw : (M.faulty most).valid k w)
    {x : Session} (hx : ((M.faulty most).session? w x.id).isSome) :
    (∃ w', Yields (store.faulty.save x) w (.ok ()) w' ∧
      (M.faulty most).Writes k w x.id (some (x, M.stamp)) w') ∨
      M.Falters most k w (store.faulty.save x) := by
  obtain ⟨s', hcall, hwrites⟩ := h.save_yields not_false hw.1 hx
  refine (falters_or hw hcall).imp_left ?_
  rintro ⟨plan, hgoes, hmost⟩
  exact ⟨(s', plan), hgoes, ⟨hwrites.valid, hmost⟩, hwrites.view, hwrites.known⟩

theorem invalidate_falters (h : M.Laws store fun _ => False) (hw : (M.faulty most).valid k w)
    (id : SessionId) :
    (∃ w', Yields (store.faulty.invalidate id) w (.ok ()) w' ∧
      (M.faulty most).Writes k w id none w') ∨
      M.Falters most k w (store.faulty.invalidate id) := by
  obtain ⟨s', hcall, hwrites⟩ := h.invalidate_yields not_false hw.1 id
  refine (falters_or hw hcall).imp_left ?_
  rintro ⟨plan, hgoes, hmost⟩
  exact ⟨(s', plan), hgoes, ⟨hwrites.valid, hmost⟩, hwrites.view, hwrites.known⟩

theorem save_missing_falters (h : M.Laws store fun _ => False)
    (hw : (M.faulty most).valid k w) {x : Session}
    (hx : (M.faulty most).session? w x.id = none) :
    (∃ w', Yields (store.faulty.save x) w (.error .sessionNotFound) w' ∧
      (M.faulty most).Same k w w') ∨ M.Falters most k w (store.faulty.save x) := by
  obtain ⟨s', hcall, hsame⟩ := (h.save_missing hw.1 hx).resolve_right fun hf => hf.1
  refine (falters_or hw hcall).imp_left ?_
  rintro ⟨plan, hgoes, hmost⟩
  exact ⟨(s', plan), hgoes, ⟨hsame.valid, hmost⟩, hsame.view, hsame.known⟩

/-- Whichever calls the schedule picks, the others keep their promises. -/
theorem faulty_any (h : M.Laws store fun _ => False) (most : Nat) :
    (M.faulty most).Laws store.faulty fun _ => True where
  weaken := h.weaken_faulty
  id_eq hw hx := h.id_eq hw.1 hx
  known_of_session hw hx := h.known_of_session hw.1 hx
  create hw := (h.create_falters hw).imp_right fun hf => ⟨trivial, hf.refuses⟩
  get id hw := (h.get_falters hw id).imp_right fun hf => ⟨trivial, hf.refuses⟩
  save hw hx := (h.save_falters hw hx).imp_right fun hf => ⟨trivial, hf.refuses⟩
  save_missing hw hx := (h.save_missing_falters hw hx).imp_right fun hf => ⟨trivial, hf.refuses⟩
  invalidate id hw := (h.invalidate_falters hw id).imp_right fun hf => ⟨trivial, hf.refuses⟩

theorem faulty (h : M.Laws store fun _ => False) :
    (M.faulty 0).Laws store.faulty fun _ => False where
  weaken := h.weaken_faulty
  id_eq hw hx := h.id_eq hw.1 hx
  known_of_session hw hx := h.known_of_session hw.1 hx
  create hw := .inl ((h.create_falters hw).resolve_right not_falters)
  get id hw := .inl ((h.get_falters hw id).resolve_right not_falters)
  save hw hx := .inl ((h.save_falters hw hx).resolve_right not_falters)
  save_missing hw hx := .inl ((h.save_missing_falters hw hx).resolve_right not_falters)
  invalidate id hw := .inl ((h.invalidate_falters hw id).resolve_right not_falters)

end Laws

end StoreModel

end WebLogin
