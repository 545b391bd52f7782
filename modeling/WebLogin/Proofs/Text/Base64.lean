/-
Base64 can be read back, and nothing else is read.

Both layers are exact: a character of an alphabet stands for one group of six bits, and the groups
of some bytes, the filling included, are determined by the bytes.

* `Base64.Alphabet.digit_of_value?` — the only character with a value is its digit;
* `Base64.ofSextets?_sextets`, `Base64.sextets_of_ofSextets?` — bytes and their groups;
* `Base64.decode?_encode`, `Base64.encode_of_decode?` — bytes and their texts.
-/
import WebLogin.Text.Base64
import Mathlib.Tactic.SplitIfs

namespace WebLogin

namespace Base64

namespace Alphabet

variable {a : Alphabet}

/-- A character of a range is told by its place in the range. -/
theorem place_in_range {first last c : Char} (hc : (first ≤ c && c ≤ last) = true) :
    Char.ofNat (first.toNat + (c.toNat - first.toNat)) = c ∧
      c.toNat - first.toNat ≤ last.toNat - first.toNat := by
  have hbounds : first.toNat ≤ c.toNat ∧ c.toNat ≤ last.toNat := by
    simpa [Char.le_def, UInt32.le_iff_toNat_le] using hc
  refine ⟨?_, Nat.sub_le_sub_right hbounds.2 _⟩
  rw [Nat.add_sub_cancel' hbounds.1, Char.ofNat_toNat]

/-- A character that stands for a number is the digit of that number. -/
theorem digit_of_value? {c : Char} {n : Nat} (h : a.value? c = some n) :
    n < 64 ∧ a.digit n = c := by
  rw [value?] at h
  rw [digit]
  split_ifs at h with hupper hlower hdigit h62 h63
  · obtain ⟨hc, hle⟩ := place_in_range hupper
    obtain rfl := Option.some.inj h
    have hlt : c.toNat - 'A'.toNat < 26 := Nat.lt_succ_of_le hle
    rw [if_pos hlt, hc]
    exact ⟨by omega, rfl⟩
  · obtain ⟨hc, hle⟩ := place_in_range hlower
    obtain rfl := Option.some.inj h
    have hlt : c.toNat - 'a'.toNat < 26 := Nat.lt_succ_of_le hle
    rw [if_neg (by omega), if_pos (by omega), Nat.add_sub_cancel, hc]
    exact ⟨by omega, rfl⟩
  · obtain ⟨hc, hle⟩ := place_in_range hdigit
    obtain rfl := Option.some.inj h
    have hlt : c.toNat - '0'.toNat < 10 := Nat.lt_succ_of_le hle
    rw [if_neg (by omega), if_neg (by omega), if_pos (by omega), Nat.add_sub_cancel, hc]
    exact ⟨by omega, rfl⟩
  · obtain rfl := Option.some.inj h
    exact ⟨by decide, h62.symm⟩
  · obtain rfl := Option.some.inj h
    exact ⟨by decide, h63.symm⟩

/-- The digits of an alphabet can be told apart. -/
def Legible (a : Alphabet) : Prop := ∀ n < 64, a.value? (a.digit n) = some n

theorem legible_urlSafe : urlSafe.Legible := by
  unfold Legible
  decide

/-- A text is read character by character. -/
theorem mapM_value? {cs : List Char} {ns : List Nat} (h : cs.mapM a.value? = some ns) :
    (∀ n ∈ ns, n < 64) ∧ ns.map a.digit = cs := by
  induction cs generalizing ns with
  | nil =>
    rw [List.mapM_nil] at h
    obtain rfl : [] = ns := Option.some.inj h
    exact ⟨fun _ hn => absurd hn List.not_mem_nil, rfl⟩
  | cons c cs ih =>
    rw [List.mapM_cons] at h
    obtain ⟨n, hn, h⟩ := Option.bind_eq_some_iff.1 h
    obtain ⟨ns', hns, h⟩ := Option.bind_eq_some_iff.1 h
    obtain rfl : n :: ns' = ns := Option.some.inj h
    obtain ⟨hlt, hdigit⟩ := digit_of_value? hn
    obtain ⟨hall, hmap⟩ := ih hns
    exact ⟨List.forall_mem_cons.2 ⟨hlt, hall⟩, by rw [List.map_cons, hdigit, hmap]⟩

theorem mapM_digit (ha : a.Legible) {ns : List Nat} (h : ∀ n ∈ ns, n < 64) :
    (ns.map a.digit).mapM a.value? = some ns := by
  induction ns with
  | nil => rfl
  | cons n ns ih =>
    obtain ⟨hn, hns⟩ := List.forall_mem_cons.1 h
    rw [List.map_cons, List.mapM_cons, ha n hn, ih hns]
    rfl

end Alphabet

/-! ### Groups of six bits -/

theorem sextets_lt (bytes : List UInt8) : ∀ n ∈ sextets bytes, n < 64 := by
  induction bytes using sextets.induct with
  | case1 => simp [sextets]
  | case2 x =>
    have := x.toNat_lt
    simp only [sextets, List.forall_mem_cons, List.not_mem_nil, false_implies, implies_true,
      and_true]
    omega
  | case3 x y =>
    have := x.toNat_lt
    have := y.toNat_lt
    simp only [sextets, List.forall_mem_cons, List.not_mem_nil, false_implies, implies_true,
      and_true]
    omega
  | case4 x y z rest ih =>
    have := x.toNat_lt
    have := y.toNat_lt
    have := z.toNat_lt
    simp only [sextets, List.forall_mem_cons]
    exact ⟨by omega, by omega, by omega, by omega, ih⟩

/-- A number that is the value of a byte is that byte. -/
theorem toUInt8_eq_of_eq {n : Nat} {x : UInt8} (h : n = x.toNat) : n.toUInt8 = x := by
  rw [h]
  exact UInt8.ofNat_toNat

theorem ofSextets?_sextets (bytes : List UInt8) : ofSextets? (sextets bytes) = some bytes := by
  induction bytes using sextets.induct with
  | case1 => rfl
  | case2 x =>
    rw [sextets, ofSextets?, if_pos (Nat.mul_mod_left ..), toUInt8_eq_of_eq (x := x) (by omega)]
  | case3 x y =>
    have := y.toNat_lt
    rw [sextets, ofSextets?, if_pos (Nat.mul_mod_left ..), toUInt8_eq_of_eq (x := x) (by omega),
      toUInt8_eq_of_eq (x := y) (by omega)]
  | case4 x y z rest ih =>
    have := y.toNat_lt
    have := z.toNat_lt
    rw [sextets, ofSextets?, ih, Option.map_some, toUInt8_eq_of_eq (x := x) (by omega),
      toUInt8_eq_of_eq (x := y) (by omega), toUInt8_eq_of_eq (x := z) (by omega)]

theorem toNat_toUInt8 {n : Nat} (h : n < 256) : n.toUInt8.toNat = n := by
  rw [Nat.toUInt8_eq]
  exact UInt8.toNat_ofNat_of_lt' h

/-- Groups that are bytes with their filling are the groups of those bytes. -/
theorem sextets_of_ofSextets? {ns : List Nat} (hns : ∀ n ∈ ns, n < 64) {bytes : List UInt8}
    (h : ofSextets? ns = some bytes) : sextets bytes = ns := by
  induction ns using ofSextets?.induct generalizing bytes with
  | case1 =>
    obtain rfl : [] = bytes := Option.some.inj h
    rfl
  | case2 => cases h
  | case3 a b hfill =>
    obtain ⟨ha, hb, -⟩ : a < 64 ∧ b < 64 ∧ True := by simpa using hns
    rw [ofSextets?, if_pos hfill] at h
    obtain rfl := Option.some.inj h
    rw [sextets, toNat_toUInt8 (by omega)]
    have hfirst : (a * 4 + b / 16) / 4 = a := by omega
    have hsecond : (a * 4 + b / 16) % 4 * 16 = b := by omega
    rw [hfirst, hsecond]
  | case4 a b hfill =>
    rw [ofSextets?, if_neg hfill] at h
    cases h
  | case5 a b c hfill =>
    obtain ⟨ha, hb, hc, -⟩ : a < 64 ∧ b < 64 ∧ c < 64 ∧ True := by simpa using hns
    rw [ofSextets?, if_pos hfill] at h
    obtain rfl := Option.some.inj h
    rw [sextets, toNat_toUInt8 (by omega), toNat_toUInt8 (by omega)]
    have hfirst : (a * 4 + b / 16) / 4 = a := by omega
    have hsecond : (a * 4 + b / 16) % 4 * 16 + (b % 16 * 16 + c / 4) / 16 = b := by omega
    have hthird : (b % 16 * 16 + c / 4) % 16 * 4 = c := by omega
    rw [hfirst, hsecond, hthird]
  | case6 a b c hfill =>
    rw [ofSextets?, if_neg hfill] at h
    cases h
  | case7 a b c d rest ih =>
    simp only [List.forall_mem_cons] at hns
    obtain ⟨ha, hb, hc, hd, hrest⟩ := hns
    rw [ofSextets?] at h
    obtain ⟨tail, htail, rfl⟩ := Option.map_eq_some_iff.1 h
    rw [sextets, toNat_toUInt8 (by omega), toNat_toUInt8 (by omega), toNat_toUInt8 (by omega),
      ih hrest htail]
    have hfirst : (a * 4 + b / 16) / 4 = a := by omega
    have hsecond : (a * 4 + b / 16) % 4 * 16 + (b % 16 * 16 + c / 4) / 16 = b := by omega
    have hthird : (b % 16 * 16 + c / 4) % 16 * 4 + (c % 4 * 64 + d) / 64 = c := by omega
    have hfourth : (c % 4 * 64 + d) % 64 = d := by omega
    rw [hfirst, hsecond, hthird, hfourth]

/-! ### Texts -/

variable {a : Alphabet}

/-- Bytes are read back from their text. -/
theorem decode?_encode (ha : a.Legible) (bytes : List UInt8) :
    decode? a (encode a bytes) = some bytes := by
  rw [decode?, encode, Alphabet.mapM_digit ha (sextets_lt bytes), Option.bind_some,
    ofSextets?_sextets]

/-- The only text that is read as some bytes is the one that is written for them. -/
theorem encode_of_decode? {cs : List Char} {bytes : List UInt8} (h : decode? a cs = some bytes) :
    encode a bytes = cs := by
  obtain ⟨ns, hns, h⟩ := Option.bind_eq_some_iff.1 h
  obtain ⟨hlt, hcs⟩ := Alphabet.mapM_value? hns
  rw [encode, sextets_of_ofSextets? hlt h, hcs]

/-- A character that stands for nothing is never written. -/
theorem notMem_encode (ha : a.Legible) {c : Char} (hc : a.value? c = none) (bytes : List UInt8) :
    c ∉ encode a bytes := by
  intro hmem
  obtain ⟨n, hn, rfl⟩ := List.mem_map.1 hmem
  exact absurd ((ha n (sextets_lt bytes n hn)).symm.trans hc) (Option.some_ne_none n)

end Base64

end WebLogin
