/-
The limits of machine integers, each the least number that is too large.
-/
namespace WebLogin

/-- The least number that 32 bits cannot write. -/
def limit32 : Nat := 4294967296

/-- The least number that 64 bits cannot write. -/
def limit64 : Nat := 18446744073709551616

/-- The least positive number that 31 bits and a sign cannot write. -/
def signedLimit32 : Nat := 2147483648

/-- The least positive number that 63 bits and a sign cannot write; its negative can be written. -/
def signedLimit64 : Nat := 9223372036854775808

end WebLogin
