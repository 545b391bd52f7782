/-
Sets of authorities and who may run an operation.

* `AuthoritySet.intersects_iff` — two sets intersect if they share a member, whichever of them is
  walked and whichever is searched;
* `isAuthorized_none`, `isAuthorized_some` — who is let in: a principal that holds one of the listed
  roles.
-/
import WebLogin.Operation

namespace WebLogin

namespace Authority

theorem findSorted_iff {a : Authority} {l : List Authority} (h : l.Pairwise (· < ·)) :
    findSorted a l = true ↔ a ∈ l := by
  induction l with
  | nil => simp [findSorted]
  | cons b rest ih =>
    have hrest := List.pairwise_cons.1 h
    rw [findSorted, List.mem_cons]
    split
    · rename_i hlt
      rw [ih hrest.2]
      exact ⟨.inr, fun hmem => hmem.resolve_left fun heq => String.lt_irrefl b (heq ▸ hlt)⟩
    · rename_i hge
      rw [beq_iff_eq]
      -- Every member after the first lies above it, so none of them can be the name.
      exact ⟨fun heq => .inl heq.symm,
        fun hmem => (hmem.resolve_right fun hin => hge (hrest.1 a hin)).symm⟩

end Authority

namespace AuthoritySet

theorem mem_insert {a x : Authority} {s : AuthoritySet} :
    x ∈ (s.insert a).toList ↔ x = a ∨ x ∈ s.toList :=
  Authority.mem_insertSorted

theorem mem_ofList {x : Authority} {as : List Authority} : x ∈ (ofList as).toList ↔ x ∈ as := by
  have hfold (s : AuthoritySet) :
      x ∈ (as.foldl (fun s a => s.insert a) s).toList ↔ x ∈ s.toList ∨ x ∈ as := by
    induction as generalizing s with
    | nil => simp
    | cons a as ih =>
      rw [List.foldl_cons, ih, mem_insert, List.mem_cons]
      constructor
      · rintro ((h | h) | h)
        · exact .inr (.inl h)
        · exact .inl h
        · exact .inr (.inr h)
      · rintro (h | h | h)
        · exact .inl (.inr h)
        · exact .inl (.inl h)
        · exact .inr h
  rw [ofList, hfold, empty]
  simp

theorem contains_iff {s : AuthoritySet} {a : Authority} : s.contains a = true ↔ a ∈ s.toList := by
  rw [contains, List.any_eq_true]
  constructor
  · rintro ⟨x, hx, heq⟩
    exact beq_iff_eq.1 heq ▸ hx
  · exact fun h => ⟨a, h, beq_self_eq_true a⟩

theorem intersects_iff {s t : AuthoritySet} :
    s.intersects t = true ↔ ∃ a, a ∈ s.toList ∧ a ∈ t.toList := by
  have ht (a : Authority) : a.findSorted t.toList = true ↔ a ∈ t.toList :=
    Authority.findSorted_iff t.pairwise_toList
  have hs (a : Authority) : a.findSorted s.toList = true ↔ a ∈ s.toList :=
    Authority.findSorted_iff s.pairwise_toList
  by_cases h : s.size ≤ t.size
  · simp only [intersects, if_pos h, List.any_eq_true, ht]
  · simp only [intersects, if_neg h, List.any_eq_true, hs]
    exact exists_congr fun a => and_comm

end AuthoritySet

theorem isAuthorized_none (roles : List Authority) : isAuthorized none roles = false := by
  rw [isAuthorized]
  cases SecuredOperation.ofList roles <;> rfl

/-- A principal is let in if it holds one of the roles. -/
theorem isAuthorized_some (p : Principal) (roles : List Authority) :
    isAuthorized (some p) roles = roles.any p.hasAuthority := by
  rw [Bool.eq_iff_iff, List.any_eq_true, isAuthorized, SecuredOperation.ofList]
  split
  · rename_i op hop
    split at hop
    · exact absurd hop (by simp)
    · cases hop
      show p.authorities.intersects (.ofList roles) = true ↔ _
      rw [AuthoritySet.intersects_iff]
      constructor
      · rintro ⟨a, hp, hroles⟩
        exact ⟨a, AuthoritySet.mem_ofList.1 hroles, AuthoritySet.contains_iff.2 hp⟩
      · rintro ⟨a, hroles, hp⟩
        exact ⟨a, AuthoritySet.contains_iff.1 hp, AuthoritySet.mem_ofList.2 hroles⟩
  · rename_i e hop
    split at hop
    · rename_i hempty
      rw [AuthoritySet.isEmpty, List.isEmpty_iff] at hempty
      refine ⟨fun h => absurd h (by simp), ?_⟩
      rintro ⟨a, hroles, -⟩
      have hmem := AuthoritySet.mem_ofList.2 hroles
      rw [hempty] at hmem
      exact absurd hmem List.not_mem_nil
    · exact absurd hop (by simp)

end WebLogin
