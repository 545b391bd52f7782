/-
Cutting texts that were put together.

* `splitOn_append_cons`, `splitOn_of_notMem`, `splitOn_append` — fields between separators;
* `cut?_append_cons`, `cut?_of_notMem` — the first separator;
* `trimWhiteSpace_of_edges` — a text without blanks at its ends is not trimmed.
-/
import WebLogin.Text.CharClass
import WebLogin.Text.Split

namespace WebLogin

variable {sep : Char} {cs : List Char}

theorem splitOn_append_cons (h : sep ∉ cs) (rest : List Char) :
    splitOn sep (cs ++ sep :: rest) = cs :: splitOn sep rest := by
  induction cs with
  | nil => rw [List.nil_append, splitOn, if_pos rfl]
  | cons c cs ih =>
    rw [List.mem_cons, not_or] at h
    rw [List.cons_append, splitOn, if_neg (Ne.symm h.1), ih h.2]

theorem splitOn_of_notMem (h : sep ∉ cs) : splitOn sep cs = [cs] := by
  induction cs with
  | nil => rfl
  | cons c cs ih =>
    rw [List.mem_cons, not_or] at h
    rw [splitOn, if_neg (Ne.symm h.1), ih h.2]

theorem splitOn_ne_nil (sep : Char) (cs : List Char) : splitOn sep cs ≠ [] := by
  cases cs with
  | nil => simp [splitOn]
  | cons c cs =>
    rw [splitOn]
    split
    · simp
    · split <;> simp

/-- Cutting at a separator cuts what stands before it and what stands after it. -/
theorem splitOn_append (sep : Char) (cs rest : List Char) :
    splitOn sep (cs ++ sep :: rest) = splitOn sep cs ++ splitOn sep rest := by
  induction cs with
  | nil =>
    show splitOn sep (sep :: rest) = [] :: splitOn sep rest
    rw [splitOn, if_pos rfl]
  | cons c cs ih =>
    rw [List.cons_append, splitOn, splitOn, ih]
    split
    · rfl
    · -- The character goes to the first of the fields before the separator.
      obtain ⟨field, fields, hfields⟩ := List.exists_cons_of_ne_nil (splitOn_ne_nil sep cs)
      rw [hfields]
      rfl

/-- What stands before any separator goes to the first field. -/
theorem splitOn_append_of_notMem (h : sep ∉ cs) (rest : List Char) :
    ∃ field fields, splitOn sep (cs ++ rest) = (cs ++ field) :: fields := by
  induction cs with
  | nil => exact List.exists_cons_of_ne_nil (splitOn_ne_nil sep rest)
  | cons c cs ih =>
    rw [List.mem_cons, not_or] at h
    obtain ⟨field, fields, hfields⟩ := ih h.2
    refine ⟨field, fields, ?_⟩
    rw [List.cons_append, splitOn, if_neg (Ne.symm h.1), hfields]
    rfl

theorem cut?_of_notMem (h : sep ∉ cs) : cut? sep cs = none := by
  induction cs with
  | nil => rfl
  | cons c cs ih =>
    rw [List.mem_cons, not_or] at h
    rw [cut?, if_neg (Ne.symm h.1), ih h.2, Option.map_none]

theorem cut?_append_cons (h : sep ∉ cs) (rest : List Char) :
    cut? sep (cs ++ sep :: rest) = some (cs, rest) := by
  induction cs with
  | nil => rw [List.nil_append, cut?, if_pos rfl]
  | cons c cs ih =>
    rw [List.mem_cons, not_or] at h
    rw [List.cons_append, cut?, if_neg (Ne.symm h.1), ih h.2, Option.map_some]

/-- No blank stands at either end of a text. -/
def HasBareEdges (cs : List Char) : Prop :=
  (∀ c ∈ cs.head?, isWhiteSpace c = false) ∧ ∀ c ∈ cs.getLast?, isWhiteSpace c = false

theorem dropWhile_of_head {p : Char → Bool} (h : ∀ c ∈ cs.head?, p c = false) :
    cs.dropWhile p = cs := by
  cases cs with
  | nil => rfl
  | cons c cs => rw [List.dropWhile_cons_of_neg (by rw [h c rfl]; decide)]

theorem trimWhiteSpace_of_edges (h : HasBareEdges cs) : trimWhiteSpace cs = cs := by
  rw [trimWhiteSpace, dropWhile_of_head h.1, dropWhile_of_head, List.reverse_reverse]
  rw [List.head?_reverse]
  exact h.2

theorem hasBareEdges_of_all (h : ∀ c ∈ cs, isWhiteSpace c = false) : HasBareEdges cs :=
  ⟨fun c hc => h c (List.mem_of_mem_head? hc), fun c hc => h c (List.mem_of_getLast? hc)⟩

end WebLogin
