/-
Sessions in Redis that come back after they were ended.

To save a session, the store asks whether its key is there and then sets it. If the session is ended
between the two, setting the key brings it back, and whoever presents its id is let in again.

* `Operations.Gone.step` — a session whose key is missing, and which no operation is about to set,
  stays away;
* `Operations.returns_iff` — after a session was ended, some order of the commands lets a later
  look-up find it exactly if its key is there again, or some operation is about to set it;
* `Operations.revived` — a session that was ended and is found afterwards.
-/
import WebLogin.Proofs.Codec
import WebLogin.Proofs.Concurrency.Redis

namespace WebLogin

/-! ### Operations taking turns -/

/-- What some operations of the store are in the middle of. -/
abbrev Operations (ι : Type) := Snapshot RedisCall RedisCall.Reply ι StoreExchange RedisHost

namespace Operations

open RedisStore
open Snapshot (own)

variable {ι : Type} {ttl : Nat} {ops : ι → StoreCall}

/-- Some operations before their first commands. -/
def begun (ttl : Nat) (ops : ι → StoreCall) (h : RedisHost) : Operations ι where
  host := h
  programs i := RedisCall.operation ttl (ops i)
  log := []

variable [DecidableEq ι] {s s' : Operations ι} {id : SessionId}

/-- What holds while the operations are under way. -/
structure Underway (s : Operations ι) : Prop where
  along : ∀ i, (s.programs i).Along SetsOwn (fun _ => True) Removes (own i s.log)
  texts : s.host.OwnTexts
  removed : ∀ {i k r}, (i, ⟨.del k, r⟩) ∈ s.log → k ∈ s.host.used

theorem Underway.step (h : Underway s) {i : ι} {turn : RedisTurn}
    (hstep : s.step RedisHost.perform i turn = some s') : Underway s' := by
  obtain ⟨c, next, r, host, hprogram, hperform, rfl⟩ := Snapshot.step_cases hstep
  have ha := RedisHost.perform_answers hperform
  have hmay : SetsOwn (own i s.log) c := by
    have hcall := h.along i
    rw [hprogram] at hcall
    exact hcall.1
  refine ⟨Snapshot.step_along h.along hprogram trivial, ha.texts h.texts ?_, ?_⟩
  · -- An operation sets a key to nothing but the text of its own session.
    rintro k n v rfl
    obtain ⟨x, hk, hv, -⟩ := hmay
    exact ⟨x, hk, hv⟩
  · intro j k r' hdel
    rcases List.mem_append.1 hdel with hdel | hdel
    · exact ha.used (h.removed hdel)
    · cases List.mem_singleton.1 hdel
      cases ha
      exact List.mem_cons_self

/-! ### Sessions that were ended -/

/-- The session of an id is gone for good: its key is missing, it has been in use, and no operation
is about to set it. -/
structure Gone (id : SessionId) (s : Operations ι) : Prop where
  used : key id ∈ s.host.used
  missing : s.host.value? (key id) = none
  unset : ∀ {i n v next}, s.programs i = .call (.setex (key id) n v) next →
    s.host.accepts n = false

theorem Gone.step (hgone : Gone id s) (h : Underway s) {i : ι} {turn : RedisTurn}
    (hstep : s.step RedisHost.perform i turn = some s') : Gone id s' := by
  have h' := h.step hstep
  obtain ⟨c, next, r, host, hprogram, hperform, rfl⟩ := Snapshot.step_cases hstep
  have ha := RedisHost.perform_answers hperform
  have hmissing := RedisHost.value?_later hgone.missing turn.wait
  have hrefused {n : Nat} (hn : s.host.accepts n = false) :
      (s.host.later turn.wait).accepts n = false := by
    rw [Bool.eq_false_iff] at hn ⊢
    exact fun haccepts => hn (RedisKeys.accepts_of_later haccepts)
  refine ⟨ha.used hgone.used, ha.missing hmissing ?_, ?_⟩
  · rintro n v rfl
    exact hrefused (hgone.unset hprogram)
  · intro j n v next' hset
    rw [ha.accepts_eq]
    by_cases hj : j = i
    · -- An operation that now is about to set the key was just told of it.
      subst hj
      have hcall := h'.along j
      rw [hset] at hcall
      obtain ⟨x, hkey, -, hlast⟩ := hcall.1
      rw [Snapshot.own_append, Snapshot.own_singleton, List.getLast?_concat] at hlast
      rcases hlast with hlast | hlast
      · rw [Option.some.inj hlast] at ha
        have hfound := ha.has_eq
        rw [hmissing] at hfound
        cases hfound
      · rw [Option.some.inj hlast] at ha
        exact absurd (hkey ▸ hgone.used) ha.draw_fresh
    · exact hrefused (hgone.unset ((Function.update_of_ne hj _ _).symm.trans hset))

/-- A look-up is one command, and what it finds is the session that the value of the key writes. -/
theorem operation_get (ttl : Nat) (id : SessionId) :
    RedisCall.operation ttl (.get id) = .call (.get (key id)) fun
      | .error text => .done ⟨.get id, .error (.unexpected text)⟩
      | .ok none => .done ⟨.get id, .ok none⟩
      | .ok (some v) => .done ⟨.get id, (decode v).map some⟩ := by
  refine congrArg (Program.call _) (funext fun r => ?_)
  rcases r with e | _ | v <;> rfl

/-- A look-up that has not begun, or has found nothing. -/
def FindsNothing (ttl : Nat) (id : SessionId)
    (p : Program RedisCall RedisCall.Reply StoreExchange) : Prop :=
  p = RedisCall.operation ttl (.get id) ∨ p = .done ⟨.get id, .ok none⟩

theorem Gone.findsNothing (hgone : Gone id s) {g : ι} (hg : FindsNothing ttl id (s.programs g))
    {i : ι} {turn : RedisTurn} (hstep : s.step RedisHost.perform i turn = some s') :
    FindsNothing ttl id (s'.programs g) := by
  obtain ⟨c, next, r, host, hprogram, hperform, rfl⟩ := Snapshot.step_cases hstep
  have ha := RedisHost.perform_answers hperform
  by_cases hgi : g = i
  · -- If it is the look-up's turn, the key is missing at that moment.
    subst hgi
    rcases hg with hg | hg
    · rw [operation_get] at hg
      cases hprogram.symm.trans hg
      right
      have hnone : r = .ok none := by
        rw [ha.get_eq, RedisHost.value?_later hgone.missing turn.wait]
      rw [hnone]
      exact Function.update_self ..
    · cases hg.symm.trans hprogram
  · have hsame : Function.update s.programs i (next r) g = s.programs g :=
      Function.update_of_ne hgi _ _
    rw [FindsNothing]
    dsimp only
    rw [hsame]
    exact hg

/-- A look-up finds the session whose key has a value. -/
theorem exists_found (h : Underway s) (hvalue : (s.host.value? (key id)).isSome) {g : ι}
    (hg : s.programs g = RedisCall.operation ttl (.get id)) :
    ∃ s' x, s.run RedisHost.perform [(g, ⟨0, id⟩)] = some s' ∧
      s'.programs g = .done ⟨.get id, .ok (some x)⟩ := by
  obtain ⟨v, hv⟩ := Option.isSome_iff_exists.1 hvalue
  obtain ⟨entry, hentry, rfl⟩ := Option.map_eq_some_iff.1 hv
  obtain ⟨x, -, htext⟩ := h.texts _ _ (Option.filter_eq_some_iff.1 hentry).1
  rw [operation_get] at hg
  have hperform : RedisHost.perform ⟨0, id⟩ (.get (key id)) s.host =
      some (.ok (some entry.1), s.host.use (key id)) := by
    rw [← hv]
    rfl
  have hdecode : decode entry.1 = .ok x := by rw [htext, decode, Session.ofText_toJson]
  refine ⟨_, x, Snapshot.run_singleton.trans (Snapshot.step_eq hg hperform), ?_⟩
  dsimp only
  rw [Function.update_self, hdecode]
  rfl

/-- After a session was ended, there is a way to go on in which a look-up that has not begun yet
finds it, exactly if its key is there again or some operation is about to set it. -/
theorem returns_iff {h : RedisHost} (ht : h.OwnTexts) {schedule : List (ι × RedisTurn)}
    (hrun : (begun ttl ops h).run RedisHost.perform schedule = some s) {j g : ι}
    {r : Except StoreError Unit} (hended : s.programs j = .done ⟨.invalidate id, r⟩)
    (hg : s.programs g = RedisCall.operation ttl (.get id)) :
    (∃ rest s' x, s.run RedisHost.perform rest = some s' ∧
        s'.programs g = .done ⟨.get id, .ok (some x)⟩) ↔
      (s.host.value? (key id)).isSome ∨
        ∃ i n v next, s.programs i = .call (.setex (key id) n v) next ∧ s.host.accepts n := by
  have hunderway : Underway s := by
    refine Snapshot.run_induction (fun _ _ _ _ hu hstep => hu.step hstep) ?_ hrun
    exact ⟨fun i => operation_along ttl (ops i), ht, fun h => by cases h⟩
  constructor
  · -- Otherwise the session is gone for good, and no look-up finds it.
    rintro ⟨rest, s', x, hrest, hfound⟩
    by_contra hnone
    rw [not_or, Option.not_isSome_iff_eq_none] at hnone
    have hremoved : ∃ r, ⟨.del (key id), r⟩ ∈ own j s.log := by
      have hdone := hunderway.along j
      rw [hended] at hdone
      exact hdone id rfl
    obtain ⟨r', hr'⟩ := hremoved
    have hgone : Gone id s :=
      ⟨hunderway.removed (Snapshot.mem_own.1 hr'), hnone.1, fun {i n v next} hset =>
        Bool.eq_false_iff.2 fun haccepts => hnone.2 ⟨i, n, v, next, hset, haccepts⟩⟩
    have hnothing := Snapshot.run_induction
      (P := fun s => Underway s ∧ Gone id s ∧ FindsNothing ttl id (s.programs g))
      (fun _ _ _ _ hp hstep => ⟨hp.1.step hstep, hp.2.1.step hp.1 hstep,
        hp.2.1.findsNothing hp.2.2 hstep⟩) ⟨hunderway, hgone, .inl hg⟩ hrest
    rcases hnothing.2.2 with hstart | hend
    · rw [operation_get] at hstart
      cases hfound.symm.trans hstart
    · cases hfound.symm.trans hend
  · rintro (hvalue | ⟨i, n, v, next, hset, haccepts⟩)
    · obtain ⟨s', x, hrest, hfound⟩ := exists_found hunderway hvalue hg
      exact ⟨_, s', x, hrest, hfound⟩
    · -- First the key is set, and then the look-up takes its turn.
      have hperform : RedisHost.perform ⟨0, id⟩ (.setex (key id) n v) s.host =
          some (.ok (), s.host.set (key id) (some (v, s.host.clock + 1000 * n))) :=
        congrArg some ((s.host.answer_setex (key id) v n).trans (if_pos haccepts))
      have hstep := Snapshot.step_eq hset hperform
      have hne : g ≠ i := by
        rintro rfl
        rw [operation_get] at hg
        cases hg.symm.trans hset
      have hthere : (s.host.set (key id) (some (v, s.host.clock + 1000 * n))).value? (key id) =
          some v := RedisKeys.value?_update_self haccepts v
      obtain ⟨s', x, hrest, hfound⟩ := exists_found (hunderway.step hstep)
        (Option.isSome_of_eq_some hthere) ((Function.update_of_ne hne _ _).trans hg)
      refine ⟨(i, ⟨0, id⟩) :: [(g, ⟨0, id⟩)], s', x, ?_, hfound⟩
      rw [Snapshot.run, hstep]
      exact hrest

/-! ### A session that comes back -/

/-- A session that somebody is logged in with. -/
def heldSession : Session := ⟨⟨0⟩, some ⟨"alice", .empty⟩⟩

/-- The session is saved, ended and looked up at once. -/
def racing : Fin 3 → StoreCall
  | 0 => .save heldSession
  | 1 => .invalidate ⟨0⟩
  | 2 => .get ⟨0⟩

/-- A host that keeps the session. -/
def keeping : RedisHost where
  keys := Function.update (fun _ => none) (key ⟨0⟩) (some (heldSession.toJson, 60000))
  clock := 0
  used := [key ⟨0⟩]

/-- The session is ended right after it was found to be there. -/
def endedBetween : List (Fin 3 × RedisTurn) := [(0, ⟨0, ⟨0⟩⟩), (1, ⟨0, ⟨0⟩⟩)]

theorem ownTexts_keeping : keeping.OwnTexts := by
  intro k e he
  have hentry : Function.update (fun _ => none) (key ⟨0⟩) (some (heldSession.toJson, 60000)) k =
      some e := he
  rw [Function.update_apply] at hentry
  split at hentry
  · rename_i hk
    exact ⟨heldSession, hk, by rw [← Option.some.inj hentry]⟩
  · cases hentry

/-- Once the session was ended, its saving can still bring it back. -/
theorem returns_iff_racing : ∃ s rest s' x,
    (begun 60 racing keeping).run RedisHost.perform endedBetween = some s ∧
      s.run RedisHost.perform rest = some s' ∧
      s'.programs 2 = .done ⟨.get ⟨0⟩, .ok (some x)⟩ := by
  obtain ⟨s, hrun, hended, hg, hset, haccepts⟩ : ∃ s,
      (begun 60 racing keeping).run RedisHost.perform endedBetween = some s ∧
        s.programs 1 = .done ⟨.invalidate ⟨0⟩, .ok ()⟩ ∧
        s.programs 2 = RedisCall.operation 60 (.get ⟨0⟩) ∧
        (∃ next, s.programs 0 = .call (.setex (key ⟨0⟩) 60 heldSession.toJson) next) ∧
        s.host.accepts 60 := ⟨_, rfl, rfl, rfl, ⟨_, rfl⟩, by decide +kernel⟩
  obtain ⟨next, hset⟩ := hset
  obtain ⟨rest, s', x, hrest, hfound⟩ :=
    (returns_iff ownTexts_keeping hrun hended hg).2 (.inr ⟨0, 60, _, next, hset, haccepts⟩)
  exact ⟨s, rest, s', x, hrun, hrest, hfound⟩

/-- The session is ended and reported as such, and a look-up that begins after that finds it with
the principal that was in it. -/
theorem revived : ∃ s s', (begun 60 racing keeping).run RedisHost.perform endedBetween = some s ∧
    s.programs 1 = .done ⟨.invalidate ⟨0⟩, .ok ()⟩ ∧
    s.programs 2 = RedisCall.operation 60 (.get ⟨0⟩) ∧
    s.run RedisHost.perform [(0, ⟨0, ⟨0⟩⟩), (2, ⟨0, ⟨0⟩⟩)] = some s' ∧
    s'.programs 2 = .done ⟨.get ⟨0⟩, .ok (some heldSession)⟩ := by
  refine ⟨_, _, rfl, rfl, rfl, rfl, ?_⟩
  have hfound : (Program.done ⟨.get ⟨0⟩, (decode heldSession.toJson).map some⟩ :
      Program RedisCall RedisCall.Reply StoreExchange) =
        .done ⟨.get ⟨0⟩, .ok (some heldSession)⟩ := by
    rw [decode, Session.ofText_toJson]
    rfl
  exact hfound

end Operations

end WebLogin
