/-
What is written as JSON can be passed over.

Passing over a value only looks at where it ends. It goes from token to token with a list of the
brackets that are still open, so a list is passed over if each of its elements is, and as every
token takes at least a byte, the length of the text bounds their number.

* `skipString_takes` — a written string ends at its closing quote;
* `isPassed_quote`, `isPassed_printNat`, `isPassed_printList` — the values that are passed over;
* `IsPassed.skipValue_takes` — such a value is passed over, and nothing behind it.
-/
import WebLogin.Proofs.Json.Records

namespace WebLogin

namespace Json

variable {rest : List UInt8}

/-! ### Strings -/

theorem skipString_plain {bs : List UInt8}
    (h : ∀ b ∈ bs, b ≠ byte '"' ∧ b ≠ byte '\\' ∧ ¬b < 0x20) (fuel : Nat) (tail : List UInt8) :
    skipString (fuel + bs.length) (bs ++ tail) = skipString fuel tail := by
  induction bs with
  | nil => rfl
  | cons b bs ih =>
    obtain ⟨⟨hquote, hescape, hcontrol⟩, hbs⟩ := List.forall_mem_cons.1 h
    rw [List.length_cons, ← Nat.add_assoc, List.cons_append, skipString, (next_takes _ b).step,
      if_neg hquote, if_neg hescape, if_neg hcontrol, ih hbs]

/-- A written character is passed over, in at most as many steps as it is long. -/
theorem skipString_escape (c : Char) {fuel : Nat} (tail : List UInt8)
    (h : ((escape c).flatMap String.utf8EncodeChar).length ≤ fuel) :
    ∃ fuel', fuel ≤ fuel' + ((escape c).flatMap String.utf8EncodeChar).length ∧
      skipString fuel ((escape c).flatMap String.utf8EncodeChar ++ tail) =
        skipString fuel' tail := by
  rcases escape_form c with ⟨e, v, hbytes, hu, hv, -⟩ | ⟨hlt, hnumeric⟩ | ⟨hself, hplain⟩
  · rw [hbytes] at h ⊢
    obtain ⟨fuel, rfl⟩ := Nat.exists_eq_add_of_le' h
    refine ⟨fuel + 1, Nat.le_succ _, ?_⟩
    show skipString (fuel + 1 + 1) (byte '\\' :: e :: tail) = skipString (fuel + 1) tail
    rw [skipString, (next_takes _ _).step, if_neg (by decide), if_pos rfl, (next_takes _ e).step,
      if_neg hu, if_pos (by rw [hv]; rfl)]
  · rw [hnumeric, List.flatMap_cons, List.flatMap_cons] at h ⊢
    have hu : String.utf8EncodeChar '\\' = [byte '\\'] ∧ String.utf8EncodeChar 'u' = [byte 'u'] :=
      ⟨rfl, rfl⟩
    rw [hu.1, hu.2] at h ⊢
    simp only [List.length_append, List.length_singleton] at h ⊢
    obtain ⟨fuel, rfl⟩ := Nat.exists_eq_add_of_le' (Nat.le_trans (Nat.le_add_right 1 _) h)
    refine ⟨fuel, by omega, ?_⟩
    rw [List.append_assoc, List.append_assoc, List.singleton_append, List.singleton_append,
      skipString, (next_takes _ _).step, if_neg (by decide), if_pos rfl, (next_takes _ _).step,
      if_pos rfl, (hexQuad_takes (by omega)).step]
  · rw [hself, List.flatMap_singleton] at h ⊢
    obtain ⟨fuel, rfl⟩ := Nat.exists_eq_add_of_le' h
    exact ⟨fuel, Nat.le_refl _, skipString_plain hplain fuel tail⟩

/-- A written text is passed over up to the closing quote. -/
theorem skipString_takes (cs : List Char) {fuel : Nat}
    (h : ((cs.flatMap escape).flatMap String.utf8EncodeChar).length < fuel) :
    Takes (skipString fuel)
      ((cs.flatMap escape).flatMap String.utf8EncodeChar ++ byte '"' :: rest) () rest := by
  induction cs generalizing fuel with
  | nil =>
    obtain ⟨fuel, rfl⟩ := Nat.exists_eq_add_one_of_ne_zero (Nat.ne_of_gt (Nat.zero_lt_of_lt h))
    rw [Takes, skipString]
    exact (next_takes _ _).bind (.pure _ _)
  | cons c cs ih =>
    rw [List.flatMap_cons, List.flatMap_append] at h ⊢
    rw [List.length_append] at h
    obtain ⟨fuel', hfuel, hstep⟩ := skipString_escape c
      ((cs.flatMap escape).flatMap String.utf8EncodeChar ++ byte '"' :: rest)
      (Nat.le_of_lt (Nat.lt_of_le_of_lt (Nat.le_add_right ..) h))
    rw [Takes, List.append_assoc, hstep]
    exact ih (by omega)

/-! ### Values -/

/-- A text that is passed over as one value if no more of a number stands behind it, in at most
twice as many steps as it has bytes. -/
structure IsPassed (text : String) : Prop where
  start : ∃ b bs, Utf8.bytes text = b :: bs ∧ isBlank b = false ∧ b ≠ byte ']'
  passes : ∃ n ≤ 2 * (Utf8.bytes text).length, ∀ fuel enclosing rest, EndsNumber rest →
    skipNested (fuel + n) enclosing true (Utf8.bytes text ++ rest) =
      skipNested fuel enclosing false rest

/-- One token, and what follows it. -/
theorem skipNested_string (s : String) (fuel : Nat) (enclosing rest : List UInt8) :
    skipNested (fuel + 1) enclosing true (Utf8.bytes (quote s) ++ rest) =
      skipNested fuel enclosing false rest := by
  have hend : Takes (do skipString ((← get).length + 1)) ((s.toList.flatMap escape).flatMap
      String.utf8EncodeChar ++ byte '"' :: rest) () rest := by
    refine Takes.bind (rfl : Takes get _ _ _) (skipString_takes s.toList ?_)
    rw [List.length_append]
    omega
  rw [bytes_quote, List.cons_append, List.append_assoc, skipNested,
    (peekToken?_takes (by decide)).step]
  exact hend.step _

theorem isPassed_quote (s : String) : IsPassed (quote s) where
  start := ⟨byte '"', _, bytes_quote s, by decide, by decide⟩
  passes := by
    refine ⟨1, ?_, fun fuel enclosing rest _ => skipNested_string s fuel enclosing rest⟩
    rw [bytes_quote, List.length_cons]
    omega

theorem isPassed_printNat (n : Nat) : IsPassed (printNat n) := by
  obtain ⟨d, ds, hbytes, hdigits, -⟩ := digits_printNat n
  have hd := hdigits d List.mem_cons_self
  have hne {b : UInt8} (hb : isDigit b = false) : d ≠ b := by
    rintro rfl
    rw [hd] at hb
    cases hb
  refine ⟨⟨d, ds, hbytes, isBlank_of_isDigit hd, hne (by decide)⟩, 1, ?_, ?_⟩
  · rw [hbytes, List.length_cons]
    omega
  · intro fuel enclosing rest hrest
    have hskip := skipNumber_takes n hrest
    rw [hbytes] at hskip ⊢
    rw [skipNested, List.cons_append, (peekToken?_takes (isBlank_of_isDigit hd)).step]
    dsimp only
    rw [if_neg (hne (by decide)), if_neg (hne (by decide)), if_neg (hne (by decide)),
      if_pos (by simp [hd])]
    exact hskip.step _

/-! ### Lists -/

theorem skipNested_close (fuel : Nat) (outer rest : List UInt8) :
    skipNested (fuel + 1) (byte ']' :: outer) false (byte ']' :: rest) =
      skipNested fuel outer false rest := by
  rw [skipNested, (peekToken?_takes (by decide)).step]
  rfl

theorem skipNested_comma (fuel : Nat) (outer rest : List UInt8) :
    skipNested (fuel + 1) (byte ']' :: outer) false (byte ',' :: rest) =
      skipNested fuel (byte ']' :: outer) true rest := by
  rw [skipNested, (peekToken?_takes (by decide)).step]
  rfl

theorem skipNested_open (fuel : Nat) (outer rest : List UInt8) {b : UInt8}
    (hb : isBlank b = false) :
    skipNested (fuel + 1) outer true (byte '[' :: b :: rest) =
      skipNested fuel (byte ']' :: outer) (b ≠ byte ']') (b :: rest) := by
  rw [skipNested, (peekToken?_takes (by decide)).step]
  show (skip >>= fun _ => peekToken? >>= _) (byte '[' :: b :: rest) = _
  rw [(skip_takes _).step, (peekToken?_takes hb).step]

/-- Inside a list, what stands behind an element is no more of it. -/
theorem endsNumber_elements (texts : List String) :
    EndsNumber (continued texts ++ byte ']' :: rest) := by
  cases texts with
  | nil => exact endsNumber_bracket
  | cons t texts => exact endsNumber_comma

/-- The elements after some that have been passed over are passed over up to the end of the list. -/
theorem skipNested_continued {texts : List String} (h : ∀ t ∈ texts, IsPassed t) :
    ∃ n ≤ 2 * (continued texts).length + 1, ∀ fuel outer rest,
      skipNested (fuel + n) (byte ']' :: outer) false (continued texts ++ byte ']' :: rest) =
        skipNested fuel outer false rest := by
  induction texts with
  | nil => exact ⟨1, Nat.le_refl 1, skipNested_close⟩
  | cons t texts ih =>
    obtain ⟨ht, htexts⟩ := List.forall_mem_cons.1 h
    obtain ⟨m, hm, hskip⟩ := ht.passes
    obtain ⟨n, hn, hrest⟩ := ih htexts
    have hbytes : continued (t :: texts) = byte ',' :: (Utf8.bytes t ++ continued texts) := by
      rw [continued, List.flatMap_cons, List.cons_append]
      rfl
    refine ⟨n + m + 1, ?_, ?_⟩
    · rw [hbytes, List.length_cons, List.length_append]
      omega
    · intro fuel outer rest
      rw [hbytes, List.cons_append, List.append_assoc, ← Nat.add_assoc, ← Nat.add_assoc,
        skipNested_comma, hskip _ _ _ (endsNumber_elements texts), hrest]

theorem isPassed_printList {texts : List String} (h : ∀ t ∈ texts, IsPassed t) :
    IsPassed (printList texts) := by
  have hopen : Utf8.bytes "[" = [byte '['] := Utf8.bytes_singleton '['
  have hclose : Utf8.bytes "]" = [byte ']'] := Utf8.bytes_singleton ']'
  have hbytes : Utf8.bytes (printList texts) =
      byte '[' :: (Utf8.bytes (",".intercalate texts) ++ [byte ']']) := by
    rw [printList, Utf8.bytes_append, Utf8.bytes_append, hopen, hclose]
    rfl
  refine ⟨⟨byte '[', _, hbytes, by decide, by decide⟩, ?_⟩
  cases texts with
  | nil =>
    rw [hbytes, bytes_intercalate_nil]
    refine ⟨2, by decide, fun fuel enclosing rest _ => ?_⟩
    exact (skipNested_open (fuel + 1) enclosing rest (by decide)).trans
      (skipNested_close fuel enclosing rest)
  | cons t texts =>
    obtain ⟨ht, htexts⟩ := List.forall_mem_cons.1 h
    obtain ⟨b, bs, hb, hblank, hne⟩ := ht.start
    obtain ⟨m, hm, hskip⟩ := ht.passes
    obtain ⟨n, hn, hrest⟩ := skipNested_continued htexts
    rw [hbytes, bytes_intercalate]
    refine ⟨n + m + 1, ?_, ?_⟩
    · simp only [List.length_cons, List.length_append, List.length_nil]
      omega
    · intro fuel enclosing rest _
      have hends : EndsNumber (continued texts ++ byte ']' :: rest) := endsNumber_elements texts
      have hfirst := hskip (fuel + n) (byte ']' :: enclosing) _ hends
      rw [hrest, hb, List.cons_append] at hfirst
      simp only [List.cons_append, List.append_assoc, List.nil_append, hb]
      rw [← Nat.add_assoc, ← Nat.add_assoc, skipNested_open _ _ _ hblank, decide_eq_true hne,
        hfirst]

/-! ### Values that are not wanted -/

/-- A value that is not wanted is passed over, up to its end. -/
theorem IsPassed.skipValue_takes {text : String} (h : IsPassed text) (hrest : EndsNumber rest) :
    Takes skipValue (Utf8.bytes text ++ rest) () rest := by
  obtain ⟨n, hn, hskip⟩ := h.passes
  have hfuel : ∃ fuel, 2 * (Utf8.bytes text ++ rest).length + 2 = fuel + 1 + n := by
    refine ⟨2 * (Utf8.bytes text ++ rest).length + 1 - n, ?_⟩
    rw [List.length_append]
    omega
  obtain ⟨fuel, hfuel⟩ := hfuel
  refine Takes.bind (rfl : Takes get _ _ _) ?_
  rw [Takes, hfuel, hskip _ _ _ hrest]
  rfl

end Json

end WebLogin
