/-
A session id can be read back from its text.

* `SessionId.parse?_text` — the canonical text names the id;
* `SessionId.mem_text` — it consists of lower-case hexadecimal digits and hyphens.
-/
import WebLogin.Proofs.Text.Hex
import WebLogin.Session.Id

namespace WebLogin

namespace SessionId

theorem joinGroups?_hyphenate (n : Nat) {ns : List Nat} {cs : List Char}
    (h : cs.length = (n :: ns).sum) :
    joinGroups? (n :: ns) (hyphenate (n :: ns) cs) = some cs := by
  -- Group by group: what is left after the first group is long enough for the others.
  induction ns generalizing n cs with
  | nil =>
    rw [List.sum_singleton] at h
    rw [hyphenate, joinGroups?, List.take_of_length_le (Nat.le_of_eq h), if_pos h]
  | cons m ns ih =>
    rw [List.sum_cons] at h
    have htake : (cs.take n).length = n := List.length_take_of_le (by omega)
    have hrest : (cs.drop n).length = (m :: ns).sum := by rw [List.length_drop]; omega
    have hne : m :: ns ≠ [] := List.cons_ne_nil m ns
    rw [hyphenate.eq_3 _ _ _ hne, joinGroups?.eq_3 _ _ _ hne, List.drop_left' htake,
      List.take_left' htake]
    show Option.map (cs.take n ++ ·) (joinGroups? (m :: ns) _) = some cs
    rw [ih m hrest, Option.map_some, List.take_append_drop]

theorem length_hyphenate (n : Nat) {ns : List Nat} {cs : List Char}
    (h : cs.length = (n :: ns).sum) :
    (hyphenate (n :: ns) cs).length = (n :: ns).sum + ns.length := by
  induction ns generalizing n cs with
  | nil => rw [hyphenate, List.take_of_length_le (by simp [h]), h, List.length_nil, Nat.add_zero]
  | cons m ns ih =>
    rw [List.sum_cons] at h
    have hrest : (cs.drop n).length = (m :: ns).sum := by rw [List.length_drop]; omega
    rw [hyphenate.eq_3 _ _ _ (List.cons_ne_nil m ns), List.length_append, List.length_cons,
      ih m hrest, List.length_take_of_le (by omega), List.sum_cons (a := n), List.length_cons]
    omega

theorem mem_hyphenate {ns : List Nat} {cs : List Char} {c : Char} (h : c ∈ hyphenate ns cs) :
    c = '-' ∨ c ∈ cs := by
  induction ns generalizing cs with
  | nil => exact absurd h List.not_mem_nil
  | cons n ns ih =>
    cases ns with
    | nil => exact .inr (List.mem_of_mem_take h)
    | cons m ns =>
      rw [hyphenate.eq_3 _ _ _ (List.cons_ne_nil m ns), List.mem_append, List.mem_cons] at h
      rcases h with h | h | h
      · exact .inr (List.mem_of_mem_take h)
      · exact .inl h
      · exact (ih h).imp_right List.mem_of_mem_drop

theorem toList_text (id : SessionId) :
    id.text.toList = hyphenate groups (hexDigits 32 id.value.toNat) := by
  rw [text, String.toList_ofList]

theorem mem_text {id : SessionId} {c : Char} (h : c ∈ id.text.toList) :
    c = '-' ∨ ∃ v < 16, c = hexDigit v := by
  rw [toList_text] at h
  exact (mem_hyphenate h).imp_right mem_hexDigits

theorem parse?_text (id : SessionId) : parse? id.text = some id := by
  have hlength : (hexDigits 32 id.value.toNat).length = 32 := length_hexDigits _ _
  have hvalue : ofHexDigits? (hexDigits 32 id.value.toNat) = some id.value.toNat :=
    ofHexDigits?_hexDigits (Nat.lt_of_lt_of_le id.value.isLt (by decide))
  have hjoin : joinGroups? groups id.text.toList = some (hexDigits 32 id.value.toNat) := by
    rw [toList_text]
    exact joinGroups?_hyphenate 8 hlength
  have hread : ofHyphenated? id.text.toList = some id := by
    rw [ofHyphenated?, hjoin, Option.bind_some, ofDigits?, if_pos hlength, hvalue,
      Option.map_some, BitVec.ofNat_toNat, BitVec.setWidth_eq]
  have hsize : id.text.toList.length = 36 := by
    rw [toList_text]
    exact length_hyphenate 8 hlength
  simp only [parse?, hsize, hread]

theorem text_injective : Function.Injective text := by
  intro id id' h
  have hparse := congrArg parse? h
  rwa [parse?_text, parse?_text, Option.some.injEq] at hparse

end SessionId

end WebLogin
