/-
Texts and their bytes.

* `Utf8.bytes_append`, `Utf8.bytes_singleton` — the bytes of a text are those of its characters;
* `Utf8.decode?_bytes`, `Utf8.bytes_of_decode?` — a text can be read back from its bytes, and from
  no others.
-/
import WebLogin.Text.Utf8

namespace WebLogin

namespace Utf8

theorem toList_loop (bs : ByteArray) (i : Nat) (r : List UInt8) :
    ByteArray.toList.loop bs i r = r.reverse ++ bs.data.toList.drop i := by
  -- The bytes are gathered in reverse, from the given one on.
  by_cases h : i < bs.size
  · rw [ByteArray.toList.loop, if_pos h, toList_loop bs (i + 1)]
    have hi : i < bs.data.toList.length := h
    have hget : bs.get! i = bs.data.toList[i] := by
      rw [ByteArray.get!, getElem!_pos bs.data i h]
      rfl
    rw [List.drop_eq_getElem_cons hi, hget, List.reverse_cons, List.append_assoc]
    rfl
  · rw [ByteArray.toList.loop, if_neg h, List.drop_eq_nil_of_le (Nat.le_of_not_lt h),
      List.append_nil]
termination_by bs.size - i

theorem bytes_eq (s : String) : bytes s = s.toByteArray.data.toList := by
  rw [bytes, ByteArray.toList, toList_loop]
  rfl

theorem bytes_ofList (cs : List Char) :
    bytes (String.ofList cs) = cs.flatMap String.utf8EncodeChar := by
  rw [bytes_eq, String.toByteArray_ofList, List.utf8Encode, List.toList_data_toByteArray]

theorem bytes_eq_flatMap (s : String) : bytes s = s.toList.flatMap String.utf8EncodeChar := by
  rw [← bytes_ofList, String.ofList_toList]

theorem bytes_append (s t : String) : bytes (s ++ t) = bytes s ++ bytes t := by
  rw [bytes_eq_flatMap, String.toList_append, List.flatMap_append, ← bytes_eq_flatMap,
    ← bytes_eq_flatMap]

theorem bytes_singleton (c : Char) : bytes (String.singleton c) = String.utf8EncodeChar c := by
  rw [bytes_eq_flatMap, String.toList_singleton, List.flatMap_singleton]

theorem decode?_bytes (s : String) : decode? (bytes s) = some s := by
  have hbytes : (bytes s).toByteArray = s.toByteArray := by
    rw [bytes_eq]
    exact ByteArray.ext (Array.ext' List.toList_data_toByteArray)
  rw [decode?, hbytes, String.fromUTF8?, dif_pos s.isValidUTF8]
  rfl

theorem bytes_empty : bytes "" = [] := bytes_eq_flatMap ""

/-- A text has the bytes that it was read from. -/
theorem bytes_of_decode? {bs : List UInt8} {s : String} (h : decode? bs = some s) :
    bytes s = bs := by
  rw [decode?, String.fromUTF8?] at h
  split at h
  · rw [← Option.some.inj h, bytes_eq]
    exact List.toList_data_toByteArray
  · cases h

/-- A character below 128 is written as one byte. -/
theorem utf8EncodeChar_of_lt {c : Char} (h : c.toNat < 128) :
    String.utf8EncodeChar c = [c.toNat.toUInt8] := by
  rw [String.utf8EncodeChar]
  rw [if_pos (show c.val.toNat ≤ 0x7f from Nat.le_of_lt_succ h)]
  rfl

end Utf8

end WebLogin
