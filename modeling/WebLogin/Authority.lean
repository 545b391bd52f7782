/-
Authorities and sets of them.

An authority is a name, compared as text. An `AuthoritySet` holds its members in strictly
ascending order, so two sets with the same members are equal. `contains` scans the members one by
one; `intersects` walks the smaller of two sets and looks each member up in the larger one, where
the order ends a look-up early.
-/
namespace WebLogin

/-- The name of something that a principal may do. -/
abbrev Authority := String

namespace Authority

/-- Puts a name at its place in an ascending list, unless it is there. -/
def insertSorted (a : Authority) : List Authority → List Authority
  | [] => [a]
  | b :: rest =>
    if a < b then a :: b :: rest
    else if b < a then b :: insertSorted a rest
    else b :: rest

/-- Looks a name up in an ascending list, stopping at the first member above it. -/
def findSorted (a : Authority) : List Authority → Bool
  | [] => false
  | b :: rest => if b < a then findSorted a rest else b == a

theorem mem_insertSorted {a x : Authority} {l : List Authority} :
    x ∈ insertSorted a l ↔ x = a ∨ x ∈ l := by
  induction l with
  | nil => simp [insertSorted]
  | cons b rest ih =>
    unfold insertSorted
    split
    · simp
    · split
      · simp only [List.mem_cons, ih]
        constructor <;> (rintro (h | h | h) <;> simp [h])
      · rename_i hab hba
        have : a = b := String.le_antisymm (String.not_lt.1 hba) (String.not_lt.1 hab)
        simp [this]

theorem pairwise_insertSorted {a : Authority} {l : List Authority}
    (h : l.Pairwise (· < ·)) : (insertSorted a l).Pairwise (· < ·) := by
  induction l with
  | nil => simp [insertSorted]
  | cons b rest ih =>
    have hb := List.pairwise_cons.1 h
    unfold insertSorted
    split
    · rename_i hab
      refine List.pairwise_cons.2 ⟨fun x hx => ?_, h⟩
      rcases List.mem_cons.1 hx with rfl | hx
      · exact hab
      · exact String.lt_trans hab (hb.1 x hx)
    · split
      · rename_i hba
        refine List.pairwise_cons.2 ⟨fun x hx => ?_, ih hb.2⟩
        rcases mem_insertSorted.1 hx with rfl | hx
        · exact hba
        · exact hb.1 x hx
      · exact h

end Authority

/-- A set of authorities. -/
structure AuthoritySet where
  /-- The members, each once. -/
  toList : List Authority
  /-- The members ascend. -/
  pairwise_toList : toList.Pairwise (· < ·)
  deriving DecidableEq

namespace AuthoritySet

/-- The set without members. -/
def empty : AuthoritySet := ⟨[], .nil⟩

/-- The set with one more member. -/
def insert (a : Authority) (s : AuthoritySet) : AuthoritySet :=
  ⟨Authority.insertSorted a s.toList, Authority.pairwise_insertSorted s.pairwise_toList⟩

/-- The set of the authorities in a list of any order, repeated or not. -/
def ofList (as : List Authority) : AuthoritySet :=
  as.foldl (fun s a => s.insert a) empty

/-- How many members the set has. -/
def size (s : AuthoritySet) : Nat := s.toList.length

/-- Whether the set has no member. -/
def isEmpty (s : AuthoritySet) : Bool := s.toList.isEmpty

/-- Whether the authority is a member, by a look at each member. -/
def contains (s : AuthoritySet) (a : Authority) : Bool := s.toList.any (· == a)

/-- Whether two sets share a member: the smaller set is walked, the larger one is searched. -/
def intersects (s t : AuthoritySet) : Bool :=
  let (small, large) := if s.size ≤ t.size then (s, t) else (t, s)
  small.toList.any fun a => Authority.findSorted a large.toList

/-- The members with a bar between them. -/
def display (s : AuthoritySet) : String := "|".intercalate s.toList

end AuthoritySet

end WebLogin
