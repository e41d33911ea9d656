/-!
# Blank characters

The characters with the White_Space property, and the two trimmed ends of a
text. Blankness here is wider than the four blanks a JSON document may contain.
-/

namespace BucketMount.Text

/-- True for every character with the White_Space property. -/
def blank (character : Char) : Bool :=
  let code := character.toNat
  (0x09 ≤ code && code ≤ 0x0d) || code == 0x20 || code == 0x85 || code == 0xa0
    || code == 0x1680 || (0x2000 ≤ code && code ≤ 0x200a) || code == 0x2028
    || code == 0x2029 || code == 0x202f || code == 0x205f || code == 0x3000

/-- The characters after the leading blanks. -/
def trimStart (characters : List Char) : List Char := characters.dropWhile blank

/-- The characters between the leading and the trailing blanks. -/
def trim (characters : List Char) : List Char :=
  (trimStart (trimStart characters).reverse).reverse

/-- Every character of the core blank class is blank here. -/
theorem blank_of_isWhitespace (character : Char) (isBlank : character.isWhitespace = true) :
    blank character = true := by
  simp only [Char.isWhitespace, Bool.or_eq_true, decide_eq_true_eq] at isBlank
  rcases isBlank with ((rfl | rfl) | rfl) | rfl <;> decide

end BucketMount.Text
