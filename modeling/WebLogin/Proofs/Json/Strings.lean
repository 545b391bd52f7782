/-
JSON strings can be read back.

Every character is written in a form that is read as that character alone, so that a written string
ends at its closing quote and nowhere before.

* `Takes.bind` — how readers follow each other;
* `string_takes` — a written string is read back, whatever follows it.
-/
import WebLogin.Json.Print
import WebLogin.Json.Typed
import WebLogin.Proofs.Text.Utf8
import Mathlib.Tactic.SplitIfs

namespace WebLogin

theorem Utf8.le_of_mem_utf8EncodeChar {c : Char} (hc : 128 ≤ c.toNat) {b : UInt8}
    (hb : b ∈ String.utf8EncodeChar c) : 128 ≤ b.toNat := by
  have hval : ¬c.val.toNat ≤ 0x7f := Nat.not_le.2 hc
  rw [String.utf8EncodeChar] at hb
  simp only [if_neg hval] at hb
  split at hb
  · simp only [List.mem_cons, List.not_mem_nil, or_false] at hb
    rcases hb with rfl | rfl <;> rw [UInt8.toNat_ofNat'] <;> omega
  · split at hb
    · simp only [List.mem_cons, List.not_mem_nil, or_false] at hb
      rcases hb with rfl | rfl | rfl <;> rw [UInt8.toNat_ofNat'] <;> omega
    · simp only [List.mem_cons, List.not_mem_nil, or_false] at hb
      rcases hb with rfl | rfl | rfl | rfl <;> rw [UInt8.toNat_ofNat'] <;> omega

namespace Json

/-- A reader takes a value from the front of a text and leaves the rest. -/
def Takes {α : Type} (r : Reader α) (text : List UInt8) (a : α) (rest : List UInt8) : Prop :=
  r text = .ok a rest

section Takes

variable {α β : Type} {text mid rest : List UInt8} {a : α} {b : β}

theorem Takes.pure (a : α) (text : List UInt8) : Takes (pure a) text a text := rfl

/-- What is done behind a reader starts where that left the text. -/
theorem Takes.step {x : Reader α} (hx : Takes x text a mid) (f : α → Reader β) :
    (x >>= f) text = f a mid := by
  show EStateM.bind x f text = _
  rw [EStateM.bind, hx]

theorem Takes.bind {x : Reader α} {f : α → Reader β} (hx : Takes x text a mid)
    (hf : Takes (f a) mid b rest) : Takes (x >>= f) text b rest :=
  (hx.step f).trans hf

end Takes

section Tokens

variable {rest : List UInt8}

theorem next_takes (f : Fault) (b : UInt8) : Takes (next f) (b :: rest) b rest := rfl

theorem skip_takes (b : UInt8) : Takes skip (b :: rest) () rest := rfl

theorem peekToken?_takes {b : UInt8} (h : isBlank b = false) :
    Takes peekToken? (b :: rest) (some b) (b :: rest) := by
  refine Takes.bind (rfl : Takes (modify _) _ () _) ?_
  rw [List.dropWhile_cons_of_neg (by rw [h]; decide)]
  rfl

theorem startingWith_takes {α : Type} {c : Char} {body : Reader α} {text : List UInt8} {a : α}
    (hc : isBlank (byte c) = false) (h : Takes body text a rest) :
    Takes (startingWith c body) (byte c :: text) a rest := by
  refine (peekToken?_takes hc).bind ?_
  show Takes (if byte c = byte c then (do skip; body) else reject) _ a rest
  rw [if_pos rfl]
  exact (skip_takes _).bind h

end Tokens

/-! ### Pieces of strings -/

variable {rest : List UInt8}

theorem piece_close : Takes piece (byte '"' :: rest) .close rest := rfl

theorem piece_plain {b : UInt8} (hquote : b ≠ byte '"') (hescape : b ≠ byte '\\')
    (hcontrol : ¬b < 0x20) : Takes piece (b :: rest) (.bytes [b]) rest := by
  refine (next_takes _ b).bind ?_
  rw [if_neg hquote, if_neg hescape, if_neg hcontrol]
  exact .pure _ _

theorem piece_short {e v : UInt8} (hu : e ≠ byte 'u') (hv : shortEscape? e = some v) :
    Takes piece (byte '\\' :: e :: rest) (.bytes [v]) rest := by
  refine (next_takes _ _).bind ?_
  rw [if_neg (by decide), if_pos rfl]
  refine (next_takes _ e).bind ?_
  rw [if_neg hu, hv]
  exact .pure _ _

/-- A hexadecimal digit as a byte. -/
def hexByte (n : Nat) : UInt8 := (hexDigit n).toNat.toUInt8

theorem hexValue?_hexByte {n : Nat} (h : n < 16) : hexValue? (hexByte n) = some n := by
  have hall : ∀ n < 16, hexValue? (hexByte n) = some n := by decide
  exact hall n h

theorem utf8EncodeChar_hexDigit {n : Nat} (h : n < 16) :
    String.utf8EncodeChar (hexDigit n) = [hexByte n] := by
  have hall : ∀ n < 16, (hexDigit n).toNat < 128 := by decide
  exact Utf8.utf8EncodeChar_of_lt (hall n h)

/-- Four written digits are read as their number. -/
theorem hexQuad_takes {n : Nat} (h : n < 0x10000) :
    Takes hexQuad ((hexDigits 4 n).flatMap String.utf8EncodeChar ++ rest) n rest := by
  have hbytes : (hexDigits 4 n).flatMap String.utf8EncodeChar =
      [hexByte (n / 16 / 16 / 16 % 16), hexByte (n / 16 / 16 % 16), hexByte (n / 16 % 16),
        hexByte (n % 16)] := by
    simp only [hexDigits, List.nil_append, List.cons_append, List.flatMap_cons, List.flatMap_nil,
      utf8EncodeChar_hexDigit (Nat.mod_lt _ (by decide : 16 > 0))]
  rw [hbytes]
  have hquad : Takes hexQuad (hexByte (n / 16 / 16 / 16 % 16) :: hexByte (n / 16 / 16 % 16) ::
      hexByte (n / 16 % 16) :: hexByte (n % 16) :: rest)
      (((n / 16 / 16 / 16 % 16 * 16 + n / 16 / 16 % 16) * 16 + n / 16 % 16) * 16 + n % 16)
      rest := by
    rw [hexQuad]
    refine Takes.bind (rfl : Takes _ _ [_, _, _, _] rest) ?_
    simp only [hexValue?_hexByte (Nat.mod_lt _ (by decide : 16 > 0))]
    exact .pure _ _
  have hn : ((n / 16 / 16 / 16 % 16 * 16 + n / 16 / 16 % 16) * 16 + n / 16 % 16) * 16 + n % 16 =
      n := by omega
  rwa [hn] at hquad

theorem piece_numeric {c : Char} (h : c.toNat < 0x20) :
    Takes piece (('\\' :: 'u' :: hexDigits 4 c.toNat).flatMap String.utf8EncodeChar ++ rest)
      (.bytes (String.utf8EncodeChar c)) rest := by
  have hunicode : Takes unicodeEscape ((hexDigits 4 c.toNat).flatMap String.utf8EncodeChar ++ rest)
      (String.utf8EncodeChar c) rest := by
    refine (hexQuad_takes (by omega)).bind ?_
    have htrailing : isTrailing c.toNat = false := by
      simp only [isTrailing, Bool.and_eq_false_iff, decide_eq_false_iff_not]
      omega
    have hleading : isLeading c.toNat = false := by
      simp only [isLeading, Bool.and_eq_false_iff, decide_eq_false_iff_not]
      omega
    rw [if_neg (by rw [htrailing]; decide), if_pos (by rw [hleading]; decide), Char.ofNat_toNat]
    exact .pure _ _
  refine (next_takes _ (byte '\\')).bind ?_
  rw [if_neg (by decide), if_pos rfl]
  refine (next_takes _ (byte 'u')).bind ?_
  rw [if_pos rfl]
  exact hunicode.bind (.pure _ _)

/-- The three forms in which a character is written: a short escape, a numeric one, or the bytes of
the character, none of which means anything else inside a string. -/
theorem escape_form (c : Char) :
    (∃ e v, (escape c).flatMap String.utf8EncodeChar = [byte '\\', e] ∧ e ≠ byte 'u' ∧
      shortEscape? e = some v ∧ String.utf8EncodeChar c = [v]) ∨
    (c.toNat < 0x20 ∧ escape c = '\\' :: 'u' :: hexDigits 4 c.toNat) ∨
    (escape c = [c] ∧ ∀ b ∈ String.utf8EncodeChar c, b ≠ byte '"' ∧ b ≠ byte '\\' ∧ ¬b < 0x20) := by
  rw [escape]
  split_ifs with hquote hescape hb ht hn hf hr hcontrol
  -- The short escapes come first, then the numeric one.
  iterate 7
    · subst c
      exact .inl ⟨_, _, rfl, by decide, rfl, rfl⟩
  · exact .inr (.inl ⟨hcontrol, rfl⟩)
  · refine .inr (.inr ⟨rfl, fun b hb => ?_⟩)
    by_cases hlt : c.toNat < 128
    · -- A character of one byte is that byte, so it is none of the special ones.
      rw [Utf8.utf8EncodeChar_of_lt hlt, List.mem_singleton] at hb
      have hbyte {n : Nat} (hn : n < 256) (heq : b = n.toUInt8) : c.toNat = n := by
        rw [hb, Nat.toUInt8_eq, Nat.toUInt8_eq] at heq
        have htoNat := congrArg UInt8.toNat heq
        rwa [UInt8.toNat_ofNat_of_lt' (by exact Nat.lt_trans hlt (by decide)),
          UInt8.toNat_ofNat_of_lt' (by exact hn)] at htoNat
      refine ⟨fun heq => hquote ?_, fun heq => hescape ?_, fun hless => hcontrol ?_⟩
      · exact Char.toNat_inj.1 (hbyte (by decide) heq)
      · exact Char.toNat_inj.1 (hbyte (by decide) heq)
      · rw [hb, UInt8.lt_iff_toNat_lt, Nat.toUInt8_eq,
          UInt8.toNat_ofNat_of_lt' (by exact Nat.lt_trans hlt (by decide))] at hless
        exact hless
    · -- The bytes of other characters lie above all special ones.
      have hle := Utf8.le_of_mem_utf8EncodeChar (Nat.le_of_not_lt hlt) hb
      refine ⟨?_, ?_, ?_⟩
      · rintro rfl
        exact absurd hle (by decide)
      · rintro rfl
        exact absurd hle (by decide)
      · rw [UInt8.lt_iff_toNat_lt]
        exact Nat.not_lt.2 (Nat.le_trans (by decide) hle)

/-- A character is written so that it is read in one piece, or byte by byte as it stands. -/
theorem piece_escape (c : Char) :
    (∀ rest, Takes piece ((escape c).flatMap String.utf8EncodeChar ++ rest)
      (.bytes (String.utf8EncodeChar c)) rest) ∨
    ((escape c).flatMap String.utf8EncodeChar = String.utf8EncodeChar c ∧
      ∀ b ∈ String.utf8EncodeChar c, ∀ rest, Takes piece (b :: rest) (.bytes [b]) rest) := by
  rcases escape_form c with ⟨e, v, hbytes, hu, hv, hc⟩ | ⟨hlt, hnumeric⟩ | ⟨hself, hplain⟩
  · rw [hbytes, hc]
    exact .inl fun rest => piece_short hu hv
  · rw [hnumeric]
    exact .inl fun rest => piece_numeric hlt
  · rw [hself]
    refine .inr ⟨List.flatMap_singleton .., fun b hb rest => ?_⟩
    obtain ⟨hquote, hescape, hcontrol⟩ := hplain b hb
    exact piece_plain hquote hescape hcontrol

/-! ### Strings -/

theorem stringRest_bytes {fuel : Nat} {done text tail bs : List UInt8}
    (h : Takes piece text (.bytes bs) tail) :
    stringRest (fuel + 1) done text = stringRest fuel (bs.reverse ++ done) tail :=
  h.step _

/-- Bytes that stand for themselves are taken as they are. -/
theorem stringRest_plain {bs : List UInt8}
    (h : ∀ b ∈ bs, ∀ rest, Takes piece (b :: rest) (.bytes [b]) rest) (fuel : Nat)
    (done tail : List UInt8) :
    stringRest (fuel + bs.length) done (bs ++ tail) =
      stringRest fuel (bs.reverse ++ done) tail := by
  induction bs generalizing done with
  | nil => rfl
  | cons b bs ih =>
    have hb := h b List.mem_cons_self (bs ++ tail)
    have hdone : (b :: bs).reverse ++ done = bs.reverse ++ ([b].reverse ++ done) := by simp
    rw [List.length_cons, ← Nat.add_assoc, List.cons_append, stringRest_bytes hb,
      ih fun b' hb' => h b' (List.mem_cons_of_mem b hb'), hdone]

/-- A written character is taken as its bytes, in at most as many pieces as it is long. -/
theorem stringRest_escape (c : Char) {fuel : Nat} (done tail : List UInt8)
    (h : ((escape c).flatMap String.utf8EncodeChar).length ≤ fuel) :
    ∃ fuel', fuel ≤ fuel' + ((escape c).flatMap String.utf8EncodeChar).length ∧
      stringRest fuel done ((escape c).flatMap String.utf8EncodeChar ++ tail) =
        stringRest fuel' ((String.utf8EncodeChar c).reverse ++ done) tail := by
  rcases piece_escape c with hpiece | ⟨hself, hplain⟩
  · generalize (escape c).flatMap String.utf8EncodeChar = text at *
    cases text with
    | nil => cases hpiece []
    | cons b text =>
      obtain ⟨fuel', rfl⟩ := Nat.exists_eq_add_of_le' (Nat.le_trans (Nat.succ_pos text.length) h)
      exact ⟨fuel', Nat.add_le_add_left (Nat.succ_pos text.length) fuel',
        stringRest_bytes (hpiece tail)⟩
  · rw [hself] at h ⊢
    obtain ⟨fuel', rfl⟩ := Nat.exists_eq_add_of_le' h
    exact ⟨fuel', Nat.le_refl _, stringRest_plain hplain fuel' done tail⟩

/-- A written text is taken up to the closing quote. -/
theorem stringRest_takes (cs : List Char) {fuel : Nat} (done : List UInt8)
    (h : ((cs.flatMap escape).flatMap String.utf8EncodeChar).length < fuel) :
    Takes (stringRest fuel done)
      ((cs.flatMap escape).flatMap String.utf8EncodeChar ++ byte '"' :: rest)
      (done.reverse ++ cs.flatMap String.utf8EncodeChar) rest := by
  -- Each character uses up fuel and adds its bytes to those that are done.
  induction cs generalizing fuel done with
  | nil =>
    obtain ⟨fuel', rfl⟩ := Nat.exists_eq_add_of_lt h
    simp only [List.flatMap_nil, List.append_nil, List.nil_append]
    exact piece_close.bind (.pure _ _)
  | cons c cs ih =>
    rw [List.flatMap_cons, List.flatMap_append] at h ⊢
    rw [List.length_append] at h
    obtain ⟨fuel', hfuel, hstep⟩ := stringRest_escape c done
      ((cs.flatMap escape).flatMap String.utf8EncodeChar ++ byte '"' :: rest)
      (Nat.le_of_lt (Nat.lt_of_le_of_lt (Nat.le_add_right ..) h))
    have hrest := @ih fuel' ((String.utf8EncodeChar c).reverse ++ done) (by omega)
    rw [List.reverse_append, List.reverse_reverse, List.append_assoc] at hrest
    rw [Takes, List.append_assoc, hstep, List.flatMap_cons]
    exact hrest

theorem bytes_quote (s : String) : Utf8.bytes (quote s) =
    byte '"' :: ((s.toList.flatMap escape).flatMap String.utf8EncodeChar ++ [byte '"']) := by
  rw [quote, Utf8.bytes_ofList, List.cons_append, List.flatMap_cons, List.flatMap_append]
  rfl

/-- A written string is taken behind its opening quote. -/
theorem stringBody_takes (s : String) (rest : List UInt8) :
    Takes stringBody ((s.toList.flatMap escape).flatMap String.utf8EncodeChar ++
      byte '"' :: rest) s rest := by
  refine Takes.bind (rfl : Takes get _ _ _) ?_
  refine (stringRest_takes s.toList [] ?_).bind ?_
  · rw [List.length_append]
    omega
  · rw [List.reverse_nil, List.nil_append, ← Utf8.bytes_eq_flatMap, Utf8.decode?_bytes]
    exact .pure _ _

theorem string_takes (s : String) (rest : List UInt8) :
    Takes string (Utf8.bytes (quote s) ++ rest) s rest := by
  rw [bytes_quote, List.cons_append, List.append_assoc]
  exact startingWith_takes (by decide) (stringBody_takes s rest)

end Json

end WebLogin
