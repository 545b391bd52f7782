/-
Natural numbers can be read back from JSON.

A number has no closing byte of its own: it ends where no more of it follows. So what is written
for a natural number is taken as that number if the text goes on with something else, and that is
the case inside a list or an object.

* `digits_printNat` — the digits that are written, and what they amount to;
* `natural_takes` — a number of 64 bits is read back;
* `skipNumber_takes` — any natural number is passed over.
-/
import WebLogin.Proofs.Json.Strings

namespace WebLogin

namespace Json

variable {rest : List UInt8}

/-! ### What is written -/

/-- A decimal digit as a byte. -/
def digitByte (n : Nat) : UInt8 := n.digitChar.toNat.toUInt8

theorem isDigit_digitByte {n : Nat} (h : n < 10) : isDigit (digitByte n) = true := by
  have hall : ∀ n < 10, isDigit (digitByte n) = true := by decide
  exact hall n h

theorem digitValue_digitByte {n : Nat} (h : n < 10) : digitValue (digitByte n) = n := by
  have hall : ∀ n < 10, digitValue (digitByte n) = n := by decide
  exact hall n h

theorem utf8EncodeChar_digitChar {n : Nat} (h : n < 10) :
    String.utf8EncodeChar n.digitChar = [digitByte n] := by
  refine Utf8.utf8EncodeChar_of_lt ?_
  rw [Nat.toNat_digitChar_of_lt_ten h]
  omega

theorem bytes_printNat (n : Nat) :
    Utf8.bytes (printNat n) = (Nat.toDigits 10 n).flatMap String.utf8EncodeChar := by
  rw [printNat, Nat.toString_eq_ofList_toDigits, Utf8.bytes_ofList]

/-- A number is written as digits, of which the first one is zero only if it is the whole number. -/
theorem digits_printNat (n : Nat) :
    ∃ d ds, Utf8.bytes (printNat n) = d :: ds ∧ (∀ b ∈ d :: ds, isDigit b = true) ∧
      ofDigits ((d :: ds).map digitValue) = n ∧ (digitValue d = 0 → ds = [] ∧ n = 0) := by
  rw [bytes_printNat]
  -- Digit by digit from the last one, as the number is divided by ten.
  induction n using Nat.strongRecOn with
  | ind n ih =>
    by_cases hn : n < 10
    · rw [Nat.toDigits_of_lt_base hn, List.flatMap_singleton, utf8EncodeChar_digitChar hn]
      refine ⟨digitByte n, [], rfl, List.forall_mem_singleton.2 (isDigit_digitByte hn), ?_, ?_⟩
      · rw [List.map_singleton, digitValue_digitByte hn]
        exact Nat.zero_add n
      · rw [digitValue_digitByte hn]
        exact fun hzero => ⟨rfl, hzero⟩
    · obtain ⟨d, ds, hbytes, hdigits, hvalue, hfirst⟩ := ih (n / 10) (by omega)
      have hlast : n % 10 < 10 := Nat.mod_lt _ (by decide)
      rw [Nat.toDigits_of_base_le (by decide) (by omega), List.flatMap_append,
        List.flatMap_singleton, hbytes, utf8EncodeChar_digitChar hlast]
      refine ⟨d, ds ++ [digitByte (n % 10)], rfl, ?_, ?_, ?_⟩
      · rw [← List.cons_append]
        exact List.forall_mem_append.2
          ⟨hdigits, List.forall_mem_singleton.2 (isDigit_digitByte hlast)⟩
      · rw [ofDigits] at hvalue
        rw [← List.cons_append, ofDigits, List.map_append, List.foldl_append, hvalue,
          List.map_singleton, digitValue_digitByte hlast]
        exact Nat.div_add_mod' n 10
      · intro hzero
        have := (hfirst hzero).2
        omega

/-! ### What is read -/

/-- A text that does not go on with more of a number. -/
def EndsNumber (text : List UInt8) : Prop :=
  ∀ b ∈ text.head?, isDigit b = false ∧ b ≠ byte '.' ∧ b ≠ byte 'e' ∧ b ≠ byte 'E'

theorem endsNumber_comma : EndsNumber (byte ',' :: rest) := by
  rintro _ ⟨⟩
  decide

theorem endsNumber_bracket : EndsNumber (byte ']' :: rest) := by
  rintro _ ⟨⟩
  decide

theorem endsNumber_brace : EndsNumber (byte '\x7d' :: rest) := by
  rintro _ ⟨⟩
  decide

theorem digits_takes {ds : List UInt8} (hds : ∀ b ∈ ds, isDigit b = true)
    (hrest : EndsNumber rest) : Takes digits (ds ++ rest) (ds.map digitValue) rest := by
  have hstop : rest.takeWhile isDigit = [] ∧ rest.dropWhile isDigit = rest := by
    cases rest with
    | nil => exact ⟨rfl, rfl⟩
    | cons b rest =>
      have hb : ¬isDigit b = true := by simp [(hrest b rfl).1]
      exact ⟨List.takeWhile_cons_of_neg hb, List.dropWhile_cons_of_neg hb⟩
  show EStateM.Result.ok (((ds ++ rest).takeWhile isDigit).map digitValue)
    ((ds ++ rest).dropWhile isDigit) = .ok (ds.map digitValue) rest
  rw [List.takeWhile_append_of_pos hds, List.dropWhile_append_of_pos hds, hstop.1, hstop.2,
    List.append_nil]

theorem peek?_takes (text : List UInt8) : Takes peek? text text.head? text := rfl

/-- The digits of a natural number are all of its mantissa. -/
theorem mantissa_takes (f : Fault) {d : UInt8} {ds : List UInt8}
    (hdigits : ∀ b ∈ d :: ds, isDigit b = true) (hfirst : digitValue d = 0 → ds = [])
    (hrest : EndsNumber rest) :
    Takes (mantissa f) (d :: ds ++ rest) ((d :: ds).map digitValue, []) rest := by
  obtain ⟨hd, hds⟩ := List.forall_mem_cons.1 hdigits
  have hpoint : rest.head? ≠ some (byte '.') := fun h => (hrest _ h).2.1 rfl
  have hone : Takes (digit f) (d :: ds ++ rest) (digitValue d) (ds ++ rest) := by
    refine (next_takes f d).bind ?_
    rw [if_pos hd]
    exact .pure _ _
  have htail (whole : List Nat) :
      Takes (do
        if (← peek?) = some (byte '.') then do
          skip
          return (whole, ← someDigits f)
        else return (whole, [])) rest (whole, []) rest := by
    refine (peek?_takes rest).bind ?_
    rw [if_neg hpoint]
    exact .pure _ _
  refine hone.bind ((peek?_takes _).bind ?_)
  by_cases hzero : digitValue d = 0
  · obtain rfl := hfirst hzero
    have hany : rest.head?.any isDigit = false := by
      cases hhead : rest.head? with
      | none => rfl
      | some b => exact (hrest b hhead).1
    rw [if_neg (not_not_intro hzero), List.nil_append, if_neg (by rw [hany]; decide),
      List.map_singleton, hzero]
    exact htail [0]
  · rw [if_pos hzero]
    exact (digits_takes hds hrest).bind (htail _)

theorem exponentSign_takes (hrest : EndsNumber rest) : Takes exponentSign rest none rest := by
  refine (peek?_takes rest).bind ?_
  cases hhead : rest.head? with
  | none => exact .pure _ _
  | some b =>
    obtain ⟨-, -, he, hE⟩ := hrest b hhead
    show Takes (if (b = byte 'e' || b = byte 'E') = true then _ else _) rest none rest
    rw [if_neg (by simp [he, hE])]
    exact .pure _ _

theorem isBlank_of_isDigit {b : UInt8} (hb : isDigit b = true) : isBlank b = false := by
  simp only [isBlank, Bool.or_eq_false_iff, beq_eq_false_iff_ne]
  refine ⟨⟨⟨?_, ?_⟩, ?_⟩, ?_⟩ <;> rintro rfl <;> exact absurd hb (by decide)

theorem minus_takes {b : UInt8} (hb : isDigit b = true) :
    Takes minus (b :: rest) false (b :: rest) := by
  have hminus : ¬some b = some (byte '-') := by
    rintro ⟨⟩
    exact absurd hb (by decide)
  refine (peek?_takes _).bind ?_
  show Takes (if some b = some (byte '-') then
    skip >>= fun _ => pure (decide (some b = some (byte '-')))
    else pure (decide (some b = some (byte '-')))) _ false _
  rw [if_neg hminus, decide_eq_false hminus]
  exact .pure _ _

theorem number_takes {n : Nat} (hn : n < limit64) (hrest : EndsNumber rest) :
    Takes number (Utf8.bytes (printNat n) ++ rest) (.nat n) rest := by
  obtain ⟨d, ds, hbytes, hdigits, hvalue, hfirst⟩ := digits_printNat n
  rw [hbytes]
  refine (minus_takes (hdigits d List.mem_cons_self)).bind ?_
  have hnumeral : Takes numeral (d :: ds ++ rest) ⟨(d :: ds).map digitValue, [], none⟩ rest :=
    (mantissa_takes .unfinished hdigits (fun h => (hfirst h).1) hrest).bind
      ((exponentSign_takes hrest).bind (.pure _ _))
  refine hnumeral.bind ?_
  have hnat : Numeral.value? false ⟨(d :: ds).map digitValue, [], none⟩ = some (.nat n) := by
    rw [Numeral.value?, hvalue]
    exact (if_pos rfl).trans (if_pos (by simpa using hn))
  rw [hnat]
  exact .pure _ _

/-- A number of 64 bits is read back. -/
theorem natural_takes {n : Nat} (hn : n < limit64) (hrest : EndsNumber rest) :
    Takes natural (Utf8.bytes (printNat n) ++ rest) n rest := by
  have hnumber := number_takes hn hrest
  obtain ⟨d, ds, hbytes, hdigits, -⟩ := digits_printNat n
  have hd := hdigits d List.mem_cons_self
  rw [hbytes] at hnumber ⊢
  have hblank : isBlank d = false := isBlank_of_isDigit hd
  refine (peekToken?_takes hblank).bind ?_
  show Takes (if (d = byte '-' || isDigit d) = true then _ else _) _ n rest
  rw [if_pos (by simp [hd])]
  exact hnumber.bind (.pure _ _)

/-- A natural number of any size is passed over. -/
theorem skipNumber_takes (n : Nat) (hrest : EndsNumber rest) :
    Takes skipNumber (Utf8.bytes (printNat n) ++ rest) () rest := by
  obtain ⟨d, ds, hbytes, hdigits, -, hfirst⟩ := digits_printNat n
  rw [hbytes]
  refine (minus_takes (hdigits d List.mem_cons_self)).bind ?_
  refine (mantissa_takes .malformed hdigits (fun h => (hfirst h).1) hrest).bind ?_
  exact (exponentSign_takes hrest).bind (.pure _ _)

end Json

end WebLogin
