/-
Hexadecimal digits can be read back.

* `hexValue?_hexDigit` — one digit;
* `ofHexDigits?_hexDigits` — a number of a fixed count of digits.
-/
import WebLogin.Text.Hex
import Mathlib.Algebra.GroupWithZero.Nat

namespace WebLogin

theorem hexValue?_hexDigit {n : Nat} (h : n < 16) : hexValue? (hexDigit n) = some n := by
  have hall : ∀ n < 16, hexValue? (hexDigit n) = some n := by decide
  exact hall n h

theorem length_hexDigits (count n : Nat) : (hexDigits count n).length = count := by
  induction count generalizing n with
  | zero => rfl
  | succ count ih => rw [hexDigits, List.length_append, ih, List.length_singleton]

/-- Every digit that is written is the digit of some value. -/
theorem mem_hexDigits {count n : Nat} {c : Char} (h : c ∈ hexDigits count n) :
    ∃ v < 16, c = hexDigit v := by
  induction count generalizing n with
  | zero => exact absurd h List.not_mem_nil
  | succ count ih =>
    rw [hexDigits, List.mem_append, List.mem_singleton] at h
    rcases h with h | rfl
    · exact ih h
    · exact ⟨n % 16, Nat.mod_lt _ (by decide), rfl⟩

theorem ofHexDigits?_hexDigits {count n : Nat} (h : n < 16 ^ count) :
    ofHexDigits? (hexDigits count n) = some n := by
  induction count generalizing n with
  | zero =>
    obtain rfl : n = 0 := by omega
    rfl
  | succ count ih =>
    have hhigh : n / 16 < 16 ^ count := Nat.div_lt_of_lt_mul (by rwa [Nat.pow_succ'] at h)
    have hread := ih hhigh
    rw [ofHexDigits?] at hread
    rw [ofHexDigits?, hexDigits, List.foldl_append, hread, List.foldl_cons, List.foldl_nil,
      hexValue?_hexDigit (Nat.mod_lt _ (by decide))]
    show some (n / 16 * 16 + n % 16) = some n
    rw [Nat.div_add_mod']

end WebLogin
