/-
Texts are ordered as their bytes are.

A character is written as a lead byte, which says how many bytes follow, and those bytes, which are
the digits of the rest of its number to the base of 64. Of two characters the smaller one has the
smaller lead byte, or the same one and, among as many digits, the smaller first one that differs.
So the first character in which two texts differ decides about their bytes too.

* `utf8EncodeChar_lt` — the bytes of a smaller character, whatever follows them;
* `bytes_lt_iff` — the order of texts is the order of their bytes.
-/
import WebLogin.Proofs.Text.Utf8
import Mathlib.Algebra.Group.Nat.Defs
import Mathlib.Tactic.SplitIfs

namespace WebLogin

namespace Utf8

/-- How many bytes follow the lead byte of a character. -/
def more (v : Nat) : Nat :=
  if v ≤ 0x7f then 0 else if v ≤ 0x7ff then 1 else if v ≤ 0xffff then 2 else 3

/-- The lead byte of a character. -/
def lead (v : Nat) : Nat :=
  if v ≤ 0x7f then v
  else if v ≤ 0x7ff then 0xc0 + v / 64
  else if v ≤ 0xffff then 0xe0 + v / 4096
  else 0xf0 + v / 262144

/-- The last digits of a number to the base of 64, as bytes that are none of them a lead byte. -/
def trail : Nat → Nat → List UInt8
  | 0, _ => []
  | count + 1, v => trail count (v / 64) ++ [UInt8.ofNat (v % 64 + 128)]

theorem toNat_lt (c : Char) : c.toNat < 0x110000 := by
  have hvalid := c.valid
  simp only [UInt32.isValidChar, Nat.isValidChar] at hvalid
  show c.val.toNat < 0x110000
  omega

theorem ofNat_lt_ofNat {m n : Nat} (h : m < n) (hn : n < 256) : UInt8.ofNat m < UInt8.ofNat n := by
  have hm : m < UInt8.size := Nat.lt_trans h hn
  rw [UInt8.lt_iff_toNat_lt, UInt8.toNat_ofNat_of_lt' hm, UInt8.toNat_ofNat_of_lt' hn]
  exact h

theorem utf8EncodeChar_eq (c : Char) :
    String.utf8EncodeChar c = UInt8.ofNat (lead c.toNat) :: trail (more c.toNat) c.toNat := by
  have hc := toNat_lt c
  have hval : c.val.toNat = c.toNat := rfl
  simp only [String.utf8EncodeChar, lead, more, hval]
  -- The digits are cut off by remainders; the lead byte needs none, since no digit is before it.
  split_ifs
  · rfl
  · have hlead : c.toNat / 64 % 32 + 192 = 192 + c.toNat / 64 := by omega
    simp [trail, hlead]
  · have hlead : c.toNat / 4096 % 16 + 224 = 224 + c.toNat / 4096 := by omega
    simp [trail, hlead]
  · have hlead : c.toNat / 262144 % 8 + 240 = 240 + c.toNat / 262144 := by omega
    simp [trail, hlead, Nat.div_div_eq_div_mul]

/-- Of two numbers that agree before their last digits the smaller one has the smaller digits. -/
theorem trail_lt (count : Nat) {m n : Nat} (h : m < n) (hsame : m / 64 ^ count = n / 64 ^ count)
    (x y : List UInt8) : trail count m ++ x < trail count n ++ y := by
  induction count generalizing m n x y with
  | zero =>
    rw [Nat.pow_zero, Nat.div_one, Nat.div_one] at hsame
    omega
  | succ count ih =>
    rw [trail, trail, List.append_assoc, List.append_assoc]
    by_cases hq : m / 64 = n / 64
    · -- Only the last digit differs.
      rw [hq]
      apply List.append_left_lt
      rw [List.singleton_append, List.singleton_append, List.cons_lt_cons_iff]
      exact .inl (ofNat_lt_ofNat (by omega) (by omega))
    · apply ih
      · omega
      · rw [Nat.div_div_eq_div_mul, Nat.div_div_eq_div_mul, ← Nat.pow_succ']
        exact hsame

theorem lead_lt_or {m n : Nat} (h : m < n) :
    lead m < lead n ∨
      lead m = lead n ∧ more m = more n ∧ m / 64 ^ more m = n / 64 ^ more m := by
  rw [lead, lead, more, more]
  split_ifs <;> simp <;> omega

theorem lead_lt (c : Char) : lead c.toNat < 256 := by
  have hc := toNat_lt c
  rw [lead]
  split_ifs <;> omega

theorem utf8EncodeChar_lt {c d : Char} (h : c < d) (x y : List UInt8) :
    String.utf8EncodeChar c ++ x < String.utf8EncodeChar d ++ y := by
  have hlt : c.toNat < d.toNat := h
  rw [utf8EncodeChar_eq, utf8EncodeChar_eq, List.cons_append, List.cons_append,
    List.cons_lt_cons_iff]
  rcases lead_lt_or hlt with hlead | ⟨hlead, hmore, hsame⟩
  · left
    exact ofNat_lt_ofNat hlead (lead_lt d)
  · right
    rw [hlead, ← hmore]
    exact ⟨rfl, trail_lt _ hlt hsame x y⟩

theorem flatMap_utf8EncodeChar_lt {cs ds : List Char} (h : cs < ds) :
    cs.flatMap String.utf8EncodeChar < ds.flatMap String.utf8EncodeChar := by
  -- The cases are those of the order: the end of the first text, a common character, and the
  -- first character that differs.
  induction h with
  | @nil d ds =>
    rw [List.flatMap_nil, List.flatMap_cons, utf8EncodeChar_eq, List.cons_append]
    exact List.nil_lt_cons _ _
  | cons _ ih =>
    rw [List.flatMap_cons, List.flatMap_cons]
    exact List.append_left_lt ih
  | rel h =>
    rw [List.flatMap_cons, List.flatMap_cons]
    exact utf8EncodeChar_lt h _ _

/-- Texts are ordered as their bytes are. -/
theorem bytes_lt_iff {s t : String} : bytes s < bytes t ↔ s < t := by
  have hlt {s t : String} (h : s < t) : bytes s < bytes t := by
    have hlist : s.toList < t.toList := h
    rw [bytes_eq_flatMap, bytes_eq_flatMap]
    exact flatMap_utf8EncodeChar_lt hlist
  constructor
  · intro h
    refine Decidable.byContradiction fun hnot => ?_
    rcases Decidable.em (t < s) with hts | hts
    · exact List.lt_irrefl _ (List.lt_trans h (hlt hts))
    · rw [String.le_antisymm (String.not_lt.1 hts) (String.not_lt.1 hnot)] at h
      exact List.lt_irrefl _ h
  · exact hlt

end Utf8

end WebLogin
