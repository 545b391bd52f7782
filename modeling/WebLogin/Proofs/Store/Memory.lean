/-
The store in memory as a map whose entries expire.

`MemoryStore.live` reads a store at a moment: the entries whose deadline is still ahead. Entries
that have expired may linger, but no operation can tell.

* `get_fst`, `live_get`, `create_eq`, `save_eq_of_live`, `save_eq_of_missing`, `live_invalidate` —
  what each operation answers and does to the live entries;
* `live_later` — what is live later is what is live now and has a deadline beyond.
-/
import WebLogin.Proofs.Lookup
import WebLogin.Store.Memory
import Mathlib.Logic.Function.Basic

namespace WebLogin

namespace MemoryStore

/-- The entry of an id if it has not expired. -/
def live (s : MemoryStore) (now : Uptime) (id : SessionId) : Option MemoryEntry :=
  (s.find? id).filter (·.isLive now)

/-- No id has two entries, and every session stands under its own id. -/
structure Sound (s : MemoryStore) : Prop where
  nodup : (s.entries.map Prod.fst).Nodup
  id_eq : ∀ id e, s.find? id = some e → e.session.id = id

variable {s : MemoryStore} {now : Uptime} {id : SessionId}

theorem live_eq_some_iff {e : MemoryEntry} :
    s.live now id = some e ↔ s.find? id = some e ∧ now < e.deadline := by
  rw [live, Option.filter_eq_some_iff, MemoryEntry.isLive, decide_eq_true_iff]

/-- An entry that is live later is live now. -/
theorem filter_isLive_later {later : Uptime} (h : now ≤ later) (o : Option MemoryEntry) :
    (o.filter (·.isLive now)).filter (·.isLive later) = o.filter (·.isLive later) := by
  rw [Option.filter_filter]
  congr 1
  funext e
  rw [MemoryEntry.isLive, MemoryEntry.isLive, ← Bool.decide_and, decide_eq_decide]
  exact ⟨And.right, fun hl => ⟨Nat.lt_of_le_of_lt h hl, hl⟩⟩

theorem live_later {later : Uptime} (h : now ≤ later) :
    s.live later id = (s.live now id).filter (·.isLive later) :=
  (filter_isLive_later h (s.find? id)).symm

/-! ### Single changes -/

theorem find?_erase (id' : SessionId) :
    (s.erase id).find? id' = if id' = id then none else s.find? id' :=
  lookup_filter_ne s.entries id id'

theorem find?_insert (e : MemoryEntry) (id' : SessionId) :
    (s.insert id e).find? id' = if id' = id then some e else s.find? id' := by
  rw [find?, insert, List.lookup_cons]
  by_cases h : id' = id
  · rw [h, beq_self_eq_true, if_pos rfl]
  · rw [beq_false_of_ne h, if_neg h]
    exact (find?_erase id').trans (if_neg h)

theorem find?_purge (h : s.Sound) (id' : SessionId) :
    (s.purge now).find? id' = s.live now id' :=
  lookup_filter_value h.nodup (·.isLive now) id'

theorem sound_empty (ttl : Nat) : ({ ttl } : MemoryStore).Sound :=
  ⟨List.nodup_nil, fun id e he => by cases he⟩

theorem Sound.erase (h : s.Sound) (id : SessionId) : (s.erase id).Sound where
  nodup := h.nodup.sublist (List.filter_sublist.map Prod.fst)
  id_eq id' e he := by
    rw [find?_erase] at he
    split at he
    · exact absurd he (by simp)
    · exact h.id_eq id' e he

theorem Sound.insert (h : s.Sound) {e : MemoryEntry} (he : e.session.id = id) :
    (s.insert id e).Sound where
  nodup := by
    -- The entry that stood under the id was erased first.
    rw [MemoryStore.insert, List.map_cons, List.nodup_cons]
    refine ⟨fun hmem => ?_, (h.erase id).nodup⟩
    obtain ⟨x, hx, hid⟩ := List.mem_map.1 hmem
    rw [MemoryStore.erase, List.mem_filter] at hx
    simp [hid] at hx
  id_eq id' e' he' := by
    rw [find?_insert] at he'
    split at he'
    · rename_i hid
      rw [← Option.some.inj he', he, hid]
    · exact h.id_eq id' e' he'

theorem Sound.purge (h : s.Sound) (now : Uptime) : (s.purge now).Sound where
  nodup := h.nodup.sublist (List.filter_sublist.map Prod.fst)
  id_eq id' e he := by
    rw [find?_purge h, live_eq_some_iff] at he
    exact h.id_eq id' e he.1

/-! ### Operations -/

theorem get_fst (s : MemoryStore) (now : Uptime) (id : SessionId) :
    (s.get now id).1 = (s.live now id).map MemoryEntry.session := by
  rw [get, live]
  cases s.find? id with
  | none => rfl
  | some e =>
    rw [Option.filter_some]
    dsimp only
    split <;> rfl

/-- Looking up an id drops at most an entry that has expired. -/
theorem get_snd (s : MemoryStore) (now : Uptime) (id : SessionId) :
    (s.get now id).2 = s ∨ (s.get now id).2 = s.erase id ∧ s.live now id = none := by
  rw [get, live]
  cases s.find? id with
  | none => exact .inl rfl
  | some e =>
    rw [Option.filter_some]
    dsimp only
    split
    · exact .inl rfl
    · exact .inr ⟨rfl, rfl⟩

theorem live_get (s : MemoryStore) (now : Uptime) (id : SessionId) :
    (s.get now id).2.live now = s.live now := by
  rcases get_snd s now id with h | ⟨h, hnone⟩
  · rw [h]
  · funext id'
    rw [h, live, find?_erase]
    by_cases hid : id' = id
    · rw [if_pos hid, hid, hnone, Option.filter_none]
    · rw [if_neg hid, live]

theorem Sound.get (h : s.Sound) (now : Uptime) (id : SessionId) : (s.get now id).2.Sound := by
  rcases get_snd s now id with he | ⟨he, -⟩
  · rwa [he]
  · rw [he]
    exact h.erase id

theorem live_insert {e : MemoryEntry} (he : now < e.deadline) :
    (s.insert id e).live now = Function.update (s.live now) id (some e) := by
  funext id'
  rw [live, find?_insert, Function.update_apply]
  by_cases hid : id' = id
  · rw [if_pos hid, if_pos hid, Option.filter_some_pos (by exact decide_eq_true he)]
  · rw [if_neg hid, if_neg hid, live]

theorem live_purge (h : s.Sound) : (s.purge now).live now = s.live now := by
  funext id
  rw [live, find?_purge h, ← live_later (Nat.le_refl now)]

/-- A session is written with a deadline that the clock can write. -/
theorem put_eq (h : now / 1000 + s.ttl ≤ Uptime.lastSecond) (x : Session) :
    s.put now x = .ok (s.insert x.id ⟨x, now + 1000 * s.ttl⟩) := by
  rw [put, Uptime.addSeconds, if_pos h]
  rfl

theorem create_eq (h : now / 1000 + s.ttl ≤ Uptime.lastSecond) :
    s.create now id =
      .ok (.fresh id, (s.purge now).insert id ⟨.fresh id, now + 1000 * s.ttl⟩) := by
  have hput := put_eq (s := s.purge now) h (.fresh id)
  rw [create, hput]
  rfl

/-- Saving a session that is there writes it. -/
theorem save_of_live {x : Session} (hx : (s.live now x.id).isSome) :
    s.save now x = (s.put now x).map (.ok (), ·) := by
  obtain ⟨e, he⟩ := Option.isSome_iff_exists.1 hx
  rw [live_eq_some_iff] at he
  rw [save, he.1, if_pos (by exact decide_eq_true he.2)]

theorem save_eq_of_live (h : now / 1000 + s.ttl ≤ Uptime.lastSecond) {x : Session}
    (hx : (s.live now x.id).isSome) :
    s.save now x = .ok (.ok (), s.insert x.id ⟨x, now + 1000 * s.ttl⟩) := by
  rw [save_of_live hx, put_eq h]
  rfl

theorem save_eq_of_missing {x : Session} (hx : s.live now x.id = none) :
    s.save now x = .ok (.error .sessionNotFound, s) := by
  rw [save, if_neg]
  intro hany
  cases he : s.find? x.id with
  | none =>
    rw [he] at hany
    exact absurd hany (by simp)
  | some e =>
    rw [he, Option.any_some] at hany
    rw [live, he, Option.filter_some_pos (by exact hany)] at hx
    exact absurd hx (by simp)

theorem live_invalidate (s : MemoryStore) (now : Uptime) (id : SessionId) :
    (s.invalidate id).live now = Function.update (s.live now) id none := by
  funext id'
  rw [live, invalidate, find?_erase, Function.update_apply]
  split
  · rfl
  · rw [live]

end MemoryStore

end WebLogin
