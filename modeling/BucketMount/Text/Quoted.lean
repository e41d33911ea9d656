import BucketMount.Text.Unprintable

/-!
# Quoted text

A quoted text stands between double quotes and escapes what a reader could
mistake: the quote, the backslash, four named controls and every unprintable
character, the last by its code point in hexadecimal between braces. An
apostrophe is shown as it is. Reading a quoted text back is not modelled.
-/

namespace BucketMount.Text

/-- Lower-case hexadecimal digits without leading zeros; zero is one digit. -/
def hexadecimal (number : Nat) : List Char := Nat.toDigits 16 number

/-- One character as it stands between quotes. -/
def quotedCharacter (character : Char) : List Char :=
  match character with
  | '\x00' => ['\\', '0']
  | '\t' => ['\\', 't']
  | '\r' => ['\\', 'r']
  | '\n' => ['\\', 'n']
  | '\\' => ['\\', '\\']
  | '"' => ['\\', '"']
  | other =>
    if unprintable other then
      ['\\', 'u', '\x7b'] ++ hexadecimal other.toNat ++ ['\x7d']
    else [other]

/-- The text between double quotes, with every unsafe character escaped. -/
def quoted (text : String) : String :=
  "\"" ++ String.ofList (text.toList.flatMap quotedCharacter) ++ "\""

/-- A printable character other than the quote and the backslash stands for itself. -/
theorem quotedCharacter_plain (character : Char) (low : 0x20 ≤ character.toNat)
    (high : character.toNat ≤ 0x7e) (notQuote : character ≠ '"')
    (notBackslash : character ≠ '\\') : quotedCharacter character = [character] := by
  unfold quotedCharacter
  split <;> first
    | exact absurd low (by decide)
    | exact absurd rfl notBackslash
    | exact absurd rfl notQuote
    | simp [printable_ascii character low high]

end BucketMount.Text
