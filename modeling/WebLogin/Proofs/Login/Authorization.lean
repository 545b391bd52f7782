/-
Who is let in is a matter of two sets of names.

A decision walks one set of authorities and searches another one, and which is which depends on
their sizes. The answer depends on neither: somebody is let in exactly if what they hold and what is
asked for have a name in common.

* `AuthoritySet.intersects_iff_nonempty` — the search finds a common member if there is one;
* `SecuredOperation.exists_ofList_iff` — which lists of roles make an operation;
* `isAuthorized_iff`, `isAuthorized_mono` — who is let in;
* `LoginCommand.authorizes_shared` — what a command answers.
-/
import WebLogin.Login.Command
import WebLogin.Proofs.Authority
import Mathlib.Data.Set.Basic

namespace WebLogin

variable {roles roles' : List Authority} {principal principal' : Option Principal}

/-! ### Sets of authorities -/

namespace AuthoritySet

variable {s s' t t' : AuthoritySet} {a : Authority}

/-- The members, as a look at each of them finds them. -/
def members (s : AuthoritySet) : Set Authority := {a | s.contains a = true}

theorem mem_members : a ∈ s.members ↔ a ∈ s.toList := contains_iff

/-- Neither the order of a list nor its repetitions matter to the set that is made of it. -/
theorem members_ofList (as : List Authority) : (ofList as).members = {a | a ∈ as} := by
  ext a
  rw [mem_members, mem_ofList]
  rfl

theorem isEmpty_ofList : (ofList roles).isEmpty = true ↔ roles = [] := by
  rw [isEmpty, List.isEmpty_iff, List.eq_nil_iff_forall_not_mem, List.eq_nil_iff_forall_not_mem]
  exact forall_congr' fun a => not_congr mem_ofList

theorem intersects_iff_nonempty : s.intersects t = true ↔ (s.members ∩ t.members).Nonempty := by
  rw [intersects_iff]
  exact exists_congr fun a => and_congr mem_members.symm mem_members.symm

/-- Scanning one set for the members of the other one finds the same. -/
theorem intersects_iff_contains : s.intersects t = true ↔ ∃ a ∈ t.toList, s.contains a = true := by
  rw [intersects_iff]
  exact exists_congr fun a => (and_congr_left' contains_iff.symm).trans and_comm

theorem intersects_comm (s t : AuthoritySet) : s.intersects t = t.intersects s := by
  rw [Bool.eq_iff_iff, intersects_iff_nonempty, intersects_iff_nonempty, Set.inter_comm]

theorem intersects_congr (hs : s.members = s'.members) (ht : t.members = t'.members) :
    s.intersects t = s'.intersects t' := by
  rw [Bool.eq_iff_iff, intersects_iff_nonempty, intersects_iff_nonempty, hs, ht]

/-- A name is not taken for another one that starts with it. -/
example : (ofList ["ab", "a", "ab"]).intersects (ofList ["abc", "b", "aa"]) = false := by
  decide +kernel

end AuthoritySet

/-! ### Decisions -/

theorem SecuredOperation.exists_ofList_iff : (∃ op, ofList roles = .ok op) ↔ roles ≠ [] := by
  rw [ne_eq, ← AuthoritySet.isEmpty_ofList, ofList]
  split
  · rename_i hempty
    exact iff_of_false (by simp) (not_not_intro hempty)
  · rename_i hrole
    exact iff_of_true ⟨_, rfl⟩ hrole

/-- What somebody holds; nobody holds anything. -/
def held (principal : Option Principal) : Set Authority :=
  {a | ∃ p, principal = some p ∧ p.hasAuthority a = true}

/-- A principal holds what it was made with. -/
theorem held_ofList (name : String) (as : List Authority) :
    held (some (.ofList name as)) = {a | a ∈ as} := by
  rw [← AuthoritySet.members_ofList]
  ext a
  constructor
  · rintro ⟨p, hp, hheld⟩
    obtain rfl := Option.some.inj hp
    exact hheld
  · exact fun hheld => ⟨_, rfl, hheld⟩

theorem isAuthorized_iff :
    isAuthorized principal roles = true ↔ (held principal ∩ {a | a ∈ roles}).Nonempty := by
  cases principal with
  | none =>
    rw [isAuthorized_none]
    refine iff_of_false (by decide) ?_
    rintro ⟨a, ⟨p, hp, -⟩, -⟩
    cases hp
  | some p =>
    rw [isAuthorized_some, List.any_eq_true]
    constructor
    · rintro ⟨a, hrole, hheld⟩
      exact ⟨a, ⟨p, rfl, hheld⟩, hrole⟩
    · rintro ⟨a, ⟨q, hq, hheld⟩, hrole⟩
      obtain rfl := Option.some.inj hq
      exact ⟨a, hrole, hheld⟩

/-- Whoever holds more is let in where they were, and so is everybody where more roles will do. -/
theorem isAuthorized_mono (hheld : held principal ⊆ held principal') (hroles : roles ⊆ roles')
    (h : isAuthorized principal roles = true) : isAuthorized principal' roles' = true :=
  isAuthorized_iff.2 ((isAuthorized_iff.1 h).mono (Set.inter_subset_inter hheld hroles))

/-- A command lets somebody in exactly if they hold one of the roles. It answers as the operation
that requires these roles, where there is one. The search behind the answer is one for a common
member of two sets, whichever of them is walked, and more authorities or roles never take an
admission back. -/
theorem LoginCommand.authorizes_shared {m : Type → Type} [Monad m] (c : LoginCommand m)
    (principal : Option Principal) (roles : List Authority) :
    (c.authorizes principal roles = true ↔ (held principal ∩ {a | a ∈ roles}).Nonempty) ∧
    ((∃ op, SecuredOperation.ofList roles = .ok op) ↔ roles ≠ []) ∧
    (∀ op, SecuredOperation.ofList roles = .ok op →
      c.authorizes principal roles = op.permits principal) ∧
    (roles = [] → c.authorizes principal roles = false) ∧
    (∀ s t : AuthoritySet, s.intersects t = t.intersects s ∧
      (s.intersects t = true ↔ ∃ a ∈ t.toList, s.contains a = true)) ∧
    (∀ s s' t t' : AuthoritySet, s.members = s'.members → t.members = t'.members →
      s.intersects t = s'.intersects t') ∧
    (∀ name as, held (some (.ofList name as)) = {a | a ∈ as}) ∧
    (∀ principal' roles', held principal = held principal' → (∀ a, a ∈ roles ↔ a ∈ roles') →
      c.authorizes principal roles = c.authorizes principal' roles') ∧
    ∀ principal' roles', held principal ⊆ held principal' → roles ⊆ roles' →
      c.authorizes principal roles = true → c.authorizes principal' roles' = true := by
  refine ⟨isAuthorized_iff, SecuredOperation.exists_ofList_iff, fun op hop => ?_, ?_,
    fun s t => ⟨s.intersects_comm t, AuthoritySet.intersects_iff_contains⟩,
    fun s s' t t' => AuthoritySet.intersects_congr, held_ofList,
    fun principal' roles' hheld hroles => ?_, fun principal' roles' => isAuthorized_mono⟩
  · rw [authorizes, isAuthorized, hop]
  · rintro rfl
    rw [authorizes, isAuthorized]
    rfl
  · rw [authorizes, authorizes, Bool.eq_iff_iff]
    exact ⟨isAuthorized_mono hheld.subset fun a => (hroles a).1,
      isAuthorized_mono hheld.symm.subset fun a => (hroles a).2⟩

end WebLogin
