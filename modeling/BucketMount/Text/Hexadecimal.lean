/-!
# Hexadecimal digits

The value of a digit in either case. Reading stops at the first character that is
no digit, so a number of several digits is read one digit at a time.
-/

namespace BucketMount.Text

/-- The value of a hexadecimal digit. -/
def hexValue? (character : Char) : Option Nat :=
  let code := character.toNat
  if 48 ≤ code ∧ code ≤ 57 then some (code - 48)
  else if 65 ≤ code ∧ code ≤ 70 then some (code - 55)
  else if 97 ≤ code ∧ code ≤ 102 then some (code - 87)
  else none

/-- A digit is worth less than sixteen. -/
theorem hexValue?_lt (character : Char) (value : Nat) (read : hexValue? character = some value) :
    value < 16 := by
  simp only [hexValue?] at read
  split at read
  · simp only [Option.some.injEq] at read
    omega
  · split at read
    · simp only [Option.some.injEq] at read
      omega
    · split at read
      · simp only [Option.some.injEq] at read
        omega
      · simp at read

end BucketMount.Text
