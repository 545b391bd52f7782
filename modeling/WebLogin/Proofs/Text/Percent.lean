/-
Percent encoding can be read back.

* `Percent.decode?_encode` — as long as the percent sign itself is escaped, and so is every
  character beyond ASCII, a text is what its encoding decodes to;
* `Percent.mem_encode` — what can stand in an encoded text.
-/
import WebLogin.Proofs.Text.Utf8
import WebLogin.Text.Percent

namespace WebLogin

namespace Percent

theorem decodeBytes_cons {b : UInt8} (h : (b == sign) = false) (rest : List UInt8) :
    decodeBytes (b :: rest) = b :: decodeBytes rest := by
  rcases rest with _ | ⟨b₁, _ | ⟨b₂, rest⟩⟩
  · rfl
  · rfl
  · rw [decodeBytes, h]

theorem decodeBytes_ne_nil {bs : List UInt8} (h : bs ≠ []) : decodeBytes bs ≠ [] := by
  fun_cases decodeBytes bs <;> simp_all

/-- Only the empty text stands for the empty text. -/
theorem eq_empty_of_decode? {s : String} (h : decode? s = some "") : s = "" := by
  have hbytes : Utf8.bytes s = [] := by
    refine Decidable.byContradiction fun hne => ?_
    exact decodeBytes_ne_nil hne ((Utf8.bytes_of_decode? h).symm.trans Utf8.bytes_empty)
  have hself := Utf8.decode?_bytes s
  rw [hbytes] at hself
  exact (Option.some.inj hself).symm

/-- A digit as a byte. -/
def digitByte (n : Nat) : UInt8 := (upperHexDigit n).toNat.toUInt8

theorem digit?_digitByte {n : Nat} (h : n < 16) : digit? (digitByte n) = some n := by
  have hall : ∀ n < 16, digit? (digitByte n) = some n := by decide
  exact hall n h

theorem upperHexDigit_lt {n : Nat} (h : n < 16) : (upperHexDigit n).toNat < 128 := by
  have hall : ∀ n < 16, (upperHexDigit n).toNat < 128 := by decide
  exact hall n h

/-- The escape of a byte, as bytes. -/
theorem bytes_escapeByte (b : UInt8) :
    (escapeByte b).flatMap String.utf8EncodeChar =
      [sign, digitByte (b.toNat / 16), digitByte (b.toNat % 16)] := by
  have hb : b.toNat < 256 := b.toNat_lt
  rw [escapeByte, List.flatMap_cons, List.flatMap_cons, List.flatMap_cons, List.flatMap_nil,
    Utf8.utf8EncodeChar_of_lt (upperHexDigit_lt (n := b.toNat / 16) (by omega)),
    Utf8.utf8EncodeChar_of_lt (upperHexDigit_lt (n := b.toNat % 16) (by omega)),
    Utf8.utf8EncodeChar_of_lt (c := '%') (by decide)]
  rfl

theorem decodeBytes_escapeByte (b : UInt8) (rest : List UInt8) :
    decodeBytes ((escapeByte b).flatMap String.utf8EncodeChar ++ rest) =
      b :: decodeBytes rest := by
  have hb : b.toNat < 256 := b.toNat_lt
  have hvalue : (b.toNat / 16 * 16 + b.toNat % 16).toUInt8 = b := by
    rw [Nat.div_add_mod']
    exact UInt8.ofNat_toNat
  rw [bytes_escapeByte, List.cons_append, List.cons_append, List.cons_append, List.nil_append,
    decodeBytes, digit?_digitByte (by omega), digit?_digitByte (by omega), beq_self_eq_true]
  exact congrArg (· :: decodeBytes rest) hvalue

theorem decodeBytes_escapes (bs rest : List UInt8) :
    decodeBytes ((bs.flatMap escapeByte).flatMap String.utf8EncodeChar ++ rest) =
      bs ++ decodeBytes rest := by
  induction bs with
  | nil => rfl
  | cons b bs ih =>
    rw [List.flatMap_cons, List.flatMap_append, List.append_assoc, decodeBytes_escapeByte, ih,
      List.cons_append]

variable {isEscaped : Char → Bool}

/-- What stands for itself is a character of ASCII other than the percent sign. -/
def KeepsAscii (isEscaped : Char → Bool) : Prop :=
  ∀ c, isEscaped c = false → c.toNat < 128 ∧ c ≠ '%'

theorem decodeBytes_escapeChar (h : KeepsAscii isEscaped) (c : Char) (rest : List UInt8) :
    decodeBytes ((escapeChar isEscaped c).flatMap String.utf8EncodeChar ++ rest) =
      String.utf8EncodeChar c ++ decodeBytes rest := by
  rw [escapeChar]
  by_cases hc : isEscaped c = true
  · rw [if_pos hc, decodeBytes_escapes, Utf8.bytes_singleton]
  · -- What stands for itself is one byte other than the percent sign.
    obtain ⟨hlt, hne⟩ := h c (Bool.not_eq_true _ ▸ hc)
    rw [if_neg hc, List.flatMap_singleton, Utf8.utf8EncodeChar_of_lt hlt, List.singleton_append,
      List.singleton_append, decodeBytes_cons]
    rw [beq_eq_false_iff_ne]
    intro heq
    have htoNat : c.toNat.toUInt8.toNat = 37 := congrArg UInt8.toNat heq
    rw [Nat.toUInt8_eq, UInt8.toNat_ofNat_of_lt' (by exact Nat.lt_trans hlt (by decide))] at htoNat
    exact hne (Char.toNat_inj.1 htoNat)

/-- Encoding loses nothing. -/
theorem decode?_encode (h : KeepsAscii isEscaped) (s : String) :
    decode? (encode isEscaped s) = some s := by
  have hbytes : decodeBytes (Utf8.bytes (encode isEscaped s)) = Utf8.bytes s := by
    rw [encode, Utf8.bytes_ofList, Utf8.bytes_eq_flatMap]
    induction s.toList with
    | nil => rfl
    | cons c cs ih =>
      rw [List.flatMap_cons, List.flatMap_append, decodeBytes_escapeChar h, ih,
        List.flatMap_cons]
  rw [decode?, hbytes, Utf8.decode?_bytes]

/-- A character of an encoded text stands for itself, or belongs to an escape. -/
theorem mem_encode {s : String} {c : Char} (h : c ∈ (encode isEscaped s).toList) :
    isEscaped c = false ∨ c = '%' ∨ ∃ n < 16, c = upperHexDigit n := by
  rw [encode, String.toList_ofList, List.mem_flatMap] at h
  obtain ⟨d, -, hc⟩ := h
  rw [escapeChar] at hc
  split at hc
  · obtain ⟨b, -, hc⟩ := List.mem_flatMap.1 hc
    have hb : b.toNat < 256 := b.toNat_lt
    simp only [escapeByte, List.mem_cons, List.not_mem_nil, or_false] at hc
    rcases hc with rfl | rfl | rfl
    · exact .inr (.inl rfl)
    · exact .inr (.inr ⟨b.toNat / 16, by omega, rfl⟩)
    · exact .inr (.inr ⟨b.toNat % 16, by omega, rfl⟩)
  · rename_i hd
    rw [List.mem_singleton.1 hc]
    exact .inl (Bool.not_eq_true _ ▸ hd)

/-- A text without characters to escape is written as it is. -/
theorem encode_eq_self {s : String} (h : ∀ c ∈ s.toList, isEscaped c = false) :
    encode isEscaped s = s := by
  have hall : s.toList.flatMap (escapeChar isEscaped) = s.toList := by
    generalize s.toList = cs at h
    induction cs with
    | nil => rfl
    | cons c cs ih =>
      rw [List.flatMap_cons, ih fun d hd => h d (List.mem_cons_of_mem _ hd), escapeChar,
        if_neg (by rw [h c (List.mem_cons_self ..)]; decide), List.singleton_append]
  rw [encode, hall, String.ofList_toList]

end Percent

end WebLogin
