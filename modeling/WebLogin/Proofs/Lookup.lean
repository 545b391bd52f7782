/-
Lists of pairs as maps.

A list of pairs is looked up by the first components, and the first pair with a key counts.
-/
import Mathlib.Data.List.Nodup

namespace WebLogin

variable {α β : Type} [DecidableEq α]

theorem lookup_cons_eq_ite (k : α) (v : β) (l : List (α × β)) (k' : α) :
    ((k, v) :: l).lookup k' = if k' = k then some v else l.lookup k' := by
  rw [List.lookup_cons]
  by_cases h : k' = k
  · rw [if_pos h, beq_iff_eq.2 h]
  · rw [if_neg h, beq_false_of_ne h]

theorem mem_of_lookup {l : List (α × β)} {k : α} {v : β} (h : l.lookup k = some v) :
    (k, v) ∈ l := by
  induction l with
  | nil => cases h
  | cons e l ih =>
    obtain ⟨k', v'⟩ := e
    rw [lookup_cons_eq_ite] at h
    split at h
    · rename_i hk
      rw [hk, Option.some.inj h]
      exact List.mem_cons_self
    · exact List.mem_cons_of_mem _ (ih h)

theorem lookup_filter_ne (l : List (α × β)) (k k' : α) :
    (l.filter fun e => e.1 != k).lookup k' = if k' = k then none else l.lookup k' := by
  induction l with
  | nil => simp
  | cons e l ih =>
    obtain ⟨a, b⟩ := e
    by_cases hak : a = k
    · rw [List.filter_cons_of_neg (by simp [hak]), ih, List.lookup_cons]
      by_cases hk : k' = k
      · rw [if_pos hk, if_pos hk]
      · rw [if_neg hk, if_neg hk, beq_false_of_ne (hak ▸ hk)]
    · rw [List.filter_cons_of_pos (by simpa using hak), List.lookup_cons, List.lookup_cons, ih]
      by_cases hk : k' = k
      · rw [if_pos hk, if_pos hk, hk, beq_false_of_ne (Ne.symm hak)]
      · rw [if_neg hk, if_neg hk]

theorem lookup_eq_none_of_notMem {l : List (α × β)} {k : α} (h : k ∉ l.map Prod.fst) :
    l.lookup k = none := by
  rw [List.lookup_eq_none_iff]
  intro e he
  simpa using fun heq => h (List.mem_map.2 ⟨e, he, heq.symm⟩)

theorem lookup_filter_value {l : List (α × β)} (h : (l.map Prod.fst).Nodup) (p : β → Bool)
    (k : α) : (l.filter fun e => p e.2).lookup k = (l.lookup k).filter p := by
  induction l with
  | nil => rfl
  | cons e l ih =>
    obtain ⟨a, b⟩ := e
    rw [List.map_cons, List.nodup_cons] at h
    by_cases hp : p b = true
    · rw [List.filter_cons_of_pos (by exact hp), List.lookup_cons, List.lookup_cons, ih h.2]
      split
      · rw [Option.filter_some_pos hp]
      · rfl
    · rw [List.filter_cons_of_neg (by exact hp), List.lookup_cons, ih h.2]
      split
      · rename_i hk
        have hnone : l.lookup k = none := by
          rw [beq_iff_eq.1 hk]
          exact lookup_eq_none_of_notMem h.1
        rw [hnone, Option.filter_some_neg (Bool.not_eq_true _ ▸ hp), Option.filter_none]
      · rfl

end WebLogin
