/-
Configuration trees, read entry by entry.

What a layer sets is found under its keys, and what it does not set stays as it was. A tree in which
no table has a key twice is canonical: where there is no table yet, it is taken as it is.

* `lookup_overlayEntries` — what is found in a table that has been laid over another;
* `entries_applyLayer` — a layer whose names are plain keys is laid over a table like a table;
* `leaf?_set` — what a value does that is set below a key of the outermost table;
* `Canonical.overlay_eq`, `canonical_ofJson` — what is read from a file is taken as it is.
-/
import WebLogin.Proofs.Lookup
import WebLogin.Settings.Tree
import Mathlib.Data.List.Nodup

namespace WebLogin

namespace Settings

variable {entries old new : List (String × Tree)} {key key' : String} {value : Tree}

/-! ### Entries -/

theorem lookup_setKey (key : String) (value : Tree) (entries : List (String × Tree))
    (key' : String) :
    (setKey key value entries).lookup key' =
      if key' = key then some value else entries.lookup key' := by
  induction entries with
  | nil => rw [setKey, lookup_cons_eq_ite]
  | cons e entries ih =>
    obtain ⟨k, v⟩ := e
    rw [setKey]
    by_cases hk : k = key
    · rw [if_pos hk, lookup_cons_eq_ite, lookup_cons_eq_ite, hk]
      by_cases h : key' = key
      · rw [if_pos h, if_pos h]
      · rw [if_neg h, if_neg h, if_neg h]
    · rw [if_neg hk, lookup_cons_eq_ite, lookup_cons_eq_ite, ih]
      by_cases h : key' = k
      · rw [if_pos h, if_pos h, if_neg (h ▸ hk)]
      · rw [if_neg h, if_neg h]

theorem mem_setKey {e : String × Tree} (h : e ∈ setKey key value entries) :
    e = (key, value) ∨ e ∈ entries := by
  induction entries with
  | nil => exact .inl (List.mem_singleton.1 h)
  | cons first entries ih =>
    obtain ⟨k, v⟩ := first
    rw [setKey] at h
    split at h
    · rcases List.mem_cons.1 h with rfl | h
      · exact .inl rfl
      · exact .inr (List.mem_cons_of_mem _ h)
    · rcases List.mem_cons.1 h with rfl | h
      · exact .inr List.mem_cons_self
      · exact (ih h).imp_right (List.mem_cons_of_mem _)

theorem nodup_setKey (h : (entries.map Prod.fst).Nodup) :
    ((setKey key value entries).map Prod.fst).Nodup := by
  induction entries with
  | nil => exact List.nodup_singleton key
  | cons e entries ih =>
    obtain ⟨k, v⟩ := e
    rw [List.map_cons, List.nodup_cons] at h
    rw [setKey]
    split
    · rename_i hk
      rw [List.map_cons, List.nodup_cons]
      exact ⟨hk ▸ h.1, h.2⟩
    · rename_i hk
      rw [List.map_cons, List.nodup_cons]
      refine ⟨fun hmem => ?_, ih h.2⟩
      obtain ⟨e, he, heq⟩ := List.mem_map.1 hmem
      rcases mem_setKey he with rfl | he
      · exact hk (Eq.symm heq)
      · exact h.1 (List.mem_map.2 ⟨e, he, heq⟩)

theorem setKey_of_notMem (h : key ∉ entries.map Prod.fst) :
    setKey key value entries = entries ++ [(key, value)] := by
  induction entries with
  | nil => rfl
  | cons e entries ih =>
    obtain ⟨k, v⟩ := e
    rw [List.map_cons, List.mem_cons, not_or] at h
    rw [setKey, if_neg (Ne.symm h.1), ih h.2, List.cons_append]

/-! ### Tables over tables -/

namespace Tree

/-- What stands under a key: no value if the key has no entry. -/
def child (t : Tree) (key : String) : Tree := (t.entries.lookup key).getD nil

/-- What stands under a key of the table that stands under another. -/
def leaf? (t : Tree) (outer inner : String) : Option Tree :=
  (t.child outer).entries.lookup inner

theorem lookup_overlayEntries (hnew : (new.map Prod.fst).Nodup) (old : List (String × Tree))
    (key : String) :
    (overlayEntries old new).lookup key =
      ((new.lookup key).map ((old.lookup key).getD nil).overlay).or (old.lookup key) := by
  induction new generalizing old with
  | nil => rfl
  | cons e new ih =>
    obtain ⟨k, v⟩ := e
    rw [List.map_cons, List.nodup_cons] at hnew
    rw [overlayEntries, ih hnew.2, lookup_setKey, lookup_cons_eq_ite]
    by_cases h : key = k
    · -- The key does not come a second time.
      have hnone : new.lookup key = none := lookup_eq_none_of_notMem (h ▸ hnew.1)
      rw [if_pos h, if_pos h, hnone, h]
      rfl
    · rw [if_neg h, if_neg h]

/-- The value is no table. -/
def IsSingle (t : Tree) : Prop := ∀ entries, t ≠ table entries

/-- A value that is no table takes the place of whatever is there. -/
theorem IsSingle.overlay_eq {t : Tree} (h : t.IsSingle) (below : Tree) : below.overlay t = t := by
  cases t with
  | table entries => exact absurd rfl (h entries)
  | _ => rfl

/-- In no table on the way into the tree is a key repeated. -/
inductive Canonical : Tree → Prop where
  | single {t : Tree} (h : t.IsSingle) : Canonical t
  | nested {entries : List (String × Tree)} (nodup : (entries.map Prod.fst).Nodup)
      (values : ∀ e ∈ entries, Canonical e.2) : Canonical (table entries)

theorem Canonical.of_table (h : (table entries).Canonical) :
    (entries.map Prod.fst).Nodup ∧ ∀ e ∈ entries, e.2.Canonical := by
  cases h with
  | single h => exact absurd rfl (h entries)
  | nested nodup values => exact ⟨nodup, values⟩

theorem canonical_emptyTable : emptyTable.Canonical :=
  .nested List.nodup_nil fun e he => by cases he

/-- The entries of any value make up a table, of which it is the part that is laid over others. -/
theorem Canonical.entries_table {t : Tree} (h : t.Canonical) :
    (Tree.table t.entries).Canonical := by
  cases h with
  | single h =>
    cases t with
    | table entries => exact absurd rfl (h entries)
    | _ => exact canonical_emptyTable
  | nested nodup values => exact .nested nodup values

theorem Canonical.child {t : Tree} (h : t.Canonical) (key : String) : (t.child key).Canonical := by
  rw [Tree.child]
  cases hlookup : t.entries.lookup key with
  | none => exact .single fun _ h => by cases h
  | some v => exact h.entries_table.of_table.2 (key, v) (mem_of_lookup hlookup)

theorem canonical_setKey (hvalue : value.Canonical) (h : (table entries).Canonical) :
    (table (setKey key value entries)).Canonical := by
  obtain ⟨hnodup, hvalues⟩ := h.of_table
  refine .nested (nodup_setKey hnodup) fun e he => ?_
  rcases mem_setKey he with rfl | he
  · exact hvalue
  · exact hvalues e he

theorem overlayEntries_eq_append (hnodup : ((old ++ new).map Prod.fst).Nodup)
    (hnew : ∀ e ∈ new, nil.overlay e.2 = e.2) : overlayEntries old new = old ++ new := by
  induction new generalizing old with
  | nil => rw [overlayEntries, List.append_nil]
  | cons e new ih =>
    obtain ⟨k, v⟩ := e
    have happend : old ++ (k, v) :: new = (old ++ [(k, v)]) ++ new := by simp
    have hk : k ∉ old.map Prod.fst := by
      rw [List.map_append, List.nodup_append] at hnodup
      intro hmem
      exact hnodup.2.2 k hmem k List.mem_cons_self rfl
    have hv : nil.overlay v = v := hnew (k, v) List.mem_cons_self
    rw [overlayEntries, lookup_eq_none_of_notMem hk, Option.getD_none, hv,
      setKey_of_notMem hk, happend]
    exact ih (happend ▸ hnodup) fun e he => hnew e (List.mem_cons_of_mem _ he)

/-- Where there is no table, a canonical tree is taken as it is. -/
theorem Canonical.overlay_eq {t below : Tree} (h : t.Canonical) (hbelow : below.entries = []) :
    below.overlay t = t := by
  induction h generalizing below with
  | single h => exact h.overlay_eq below
  | nested nodup values ih =>
    rw [overlay, hbelow, overlayEntries_eq_append (by exact nodup) fun e he => ih e he rfl]
    rfl

/-- Whatever JSON value is read as a configuration value, no key is repeated. -/
theorem canonical_ofJson (v : Json.Value) : (ofJson v).Canonical := by
  have hsingle {t : Tree} (h : ∀ entries, t ≠ table entries) : t.Canonical := .single h
  refine @Json.Value.rec (fun v => (ofJson v).Canonical) (fun _ => True)
    (fun fields => ∀ done, (table done).Canonical → (table (ofJsonFields fields done)).Canonical)
    (fun field => (ofJson field.2).Canonical) (hsingle fun _ h => by cases h)
    (fun _ => hsingle fun _ h => by cases h) (fun n => ?_)
    (fun _ => hsingle fun _ h => by cases h) (fun _ _ => hsingle fun _ h => by cases h)
    (fun fields ih => ih [] canonical_emptyTable) trivial (fun _ _ _ _ => trivial)
    (fun _ h => h) (fun field fields hfield ih done h => ?_) (fun _ _ h => h) v
  · cases n <;> exact hsingle fun _ h => by cases h
  · exact ih _ (canonical_setKey hfield h)

end Tree

/-! ### Layers -/

/-- The name is the name of a key of the outermost table, and no other path. -/
def IsPlain (name : String) : Prop := Path.ofName name = ⟨name, []⟩

theorem applyLayer_cons (name : String) (value : Tree) (layer : List (String × Tree))
    (t : Tree) :
    applyLayer ((name, value) :: layer) t =
      applyLayer layer ((Path.ofName name).set value t) := rfl

/-- A layer of plain keys is laid over a table like another table. -/
theorem entries_applyLayer {layer : List (String × Tree)} (h : ∀ e ∈ layer, IsPlain e.1)
    (t : Tree) : (applyLayer layer t).entries = Tree.overlayEntries t.entries layer := by
  induction layer generalizing t with
  | nil => rfl
  | cons e layer ih =>
    obtain ⟨name, value⟩ := e
    have hplain : Path.ofName name = ⟨name, []⟩ := h _ List.mem_cons_self
    rw [applyLayer_cons, hplain, ih fun e he => h e (List.mem_cons_of_mem _ he),
      Tree.overlayEntries]
    rfl

/-- A value that is set at an inner key changes nothing under other keys. -/
theorem leaf?_set (outer inner : String) (value t : Tree) (outer' inner' : String) :
    (Path.set ⟨outer, [.key inner]⟩ value t).leaf? outer' inner' =
      if outer' = outer ∧ inner' = inner then
        some (((t.leaf? outer inner).getD .nil).overlay value)
      else t.leaf? outer' inner' := by
  have hset : (Path.set ⟨outer, [.key inner]⟩ value t).entries =
      setKey outer (.table (setKey inner (((t.leaf? outer inner).getD .nil).overlay value)
        (t.child outer).entries)) t.entries := rfl
  rw [Tree.leaf?, Tree.child, hset, lookup_setKey]
  by_cases houter : outer' = outer
  · rw [if_pos houter, Option.getD_some, Tree.entries, lookup_setKey]
    by_cases hinner : inner' = inner
    · rw [if_pos hinner, if_pos ⟨houter, hinner⟩]
    · rw [if_neg hinner, if_neg fun h => hinner h.2, houter]
      rfl
  · rw [if_neg houter, if_neg fun h => houter h.1]
    rfl

end Settings

end WebLogin
