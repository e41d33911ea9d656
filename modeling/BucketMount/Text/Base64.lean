/-!
# Base64 with required padding

Three bytes become four symbols; a last group of one or two bytes is filled up
with the padding symbol, and its unused bits are zero. Reading accepts exactly
such texts and otherwise names the first fault, by its offset in bytes.

One fault takes precedence over an earlier one: a single extra byte at the end
that is no symbol at all is reported before anything else, because a stray line
break is the likeliest mistake.
-/

namespace BucketMount.Text.Base64

/-- Why a text is not base64. Offsets count bytes. -/
inductive Fault where
  | symbol (offset : Nat) (byte : UInt8)
  | length (count : Nat)
  | lastSymbol (offset : Nat) (byte : UInt8)
  | padding
  deriving DecidableEq, Repr

/-- The wording of a fault. -/
def Fault.message : Fault → String
  | .symbol offset byte => s!"Invalid symbol {byte.toNat}, offset {offset}."
  | .length count => s!"Invalid input length: {count}"
  | .lastSymbol offset byte => s!"Invalid last symbol {byte.toNat}, offset {offset}."
  | .padding => "Invalid padding"

/-- The symbol of a value below 64. -/
def symbol (value : Nat) : UInt8 :=
  if value < 26 then (65 + value).toUInt8
  else if value < 52 then (97 + (value - 26)).toUInt8
  else if value < 62 then (48 + (value - 52)).toUInt8
  else if value = 62 then 43
  else 47

/-- The value of a symbol. -/
def value? (byte : UInt8) : Option Nat :=
  let code := byte.toNat
  if 65 ≤ code ∧ code ≤ 90 then some (code - 65)
  else if 97 ≤ code ∧ code ≤ 122 then some (code - 97 + 26)
  else if 48 ≤ code ∧ code ≤ 57 then some (code - 48 + 52)
  else if code = 43 then some 62
  else if code = 47 then some 63
  else none

/-- The padding symbol. -/
def filler : UInt8 := 61

/-- Writes groups of three bytes as groups of four symbols. -/
def encode : List UInt8 → List UInt8
  | [] => []
  | [a] => [symbol (a.toNat / 4), symbol (a.toNat % 4 * 16), filler, filler]
  | [a, b] =>
    [symbol (a.toNat / 4), symbol (a.toNat % 4 * 16 + b.toNat / 16),
      symbol (b.toNat % 16 * 4), filler]
  | a :: b :: c :: rest =>
    symbol (a.toNat / 4) :: symbol (a.toNat % 4 * 16 + b.toNat / 16)
      :: symbol (b.toNat % 16 * 4 + c.toNat / 64) :: symbol (c.toNat % 64) :: encode rest

/-- The value of the symbol at an offset, which must not be padding. -/
def valueAt (offset : Nat) (byte : UInt8) : Except Fault Nat :=
  match value? byte with
  | some value => .ok value
  | none => .error (.symbol offset byte)

/-- The values of the last group before its padding, and the number of padding
symbols. Padding may not start before the third place and nothing follows it. -/
def lastGroup (start : Nat) : (place : Nat) → (padding : Nat) → List UInt8 →
    Except Fault (List (Nat × UInt8) × Nat)
  | _, padding, [] => .ok ([], padding)
  | place, padding, byte :: rest =>
    if byte = filler then
      if place < 2 then .error (.symbol (start + place) byte)
      else lastGroup start (place + 1) (padding + 1) rest
    else if 0 < padding then .error (.symbol (start + place - padding) filler)
    else do
      let value ← valueAt (start + place) byte
      let (values, count) ← lastGroup start (place + 1) padding rest
      pure ((value, byte) :: values, count)

/-- Reads the last group: between two and four symbols, filled to four, whose
bits beyond the last whole byte are zero. -/
def decodeLast (start : Nat) (group : List UInt8) : Except Fault (List UInt8) := do
  let (values, padding) ← lastGroup start 0 0 group
  if values.length < 2 ∧ !group.isEmpty then
    throw (.length (start + values.length))
  if (values.length + padding) % 4 ≠ 0 then throw .padding
  match values with
  | [(a, _), (b, last)] =>
    if b % 16 ≠ 0 then throw (.lastSymbol (start + 1) last)
    pure [(a * 4 + b / 16).toUInt8]
  | [(a, _), (b, _), (c, last)] =>
    if c % 4 ≠ 0 then throw (.lastSymbol (start + 2) last)
    pure [(a * 4 + b / 16).toUInt8, (b % 16 * 16 + c / 4).toUInt8]
  | [(a, _), (b, _), (c, _), (d, _)] =>
    pure [(a * 4 + b / 16).toUInt8, (b % 16 * 16 + c / 4).toUInt8, (c % 4 * 64 + d).toUInt8]
  | _ => pure []

/-- Reads whole groups while more follows, then the last group. -/
def decodeFrom (start : Nat) : List UInt8 → Except Fault (List UInt8)
  | a :: b :: c :: d :: more :: rest => do
    let first ← valueAt start a
    let second ← valueAt (start + 1) b
    let third ← valueAt (start + 2) c
    let fourth ← valueAt (start + 3) d
    let tail ← decodeFrom (start + 4) (more :: rest)
    pure ((first * 4 + second / 16).toUInt8 :: (second % 16 * 16 + third / 4).toUInt8
      :: (third % 4 * 64 + fourth).toUInt8 :: tail)
  | group => decodeLast start group

/-- A single extra byte at the end that is neither a symbol nor padding. -/
def strayEnd (bytes : List UInt8) : Option Fault :=
  if bytes.length % 4 = 1 then
    match bytes.getLast? with
    | some byte =>
      if byte ≠ filler ∧ value? byte = none then some (.symbol (bytes.length - 1) byte) else none
    | none => none
  else none

/-- Reads a base64 text, or names its fault. -/
def decode (bytes : List UInt8) : Except Fault (List UInt8) :=
  match strayEnd bytes with
  | some fault => .error fault
  | none => decodeFrom 0 bytes

/-- Every symbol is read as the value it was written for. -/
theorem value_symbol (value : Nat) (bound : value < 64) : value? (symbol value) = some value := by
  have all : ∀ digit : Fin 64, value? (symbol digit.val) = some digit.val := by decide
  exact all ⟨value, bound⟩

end BucketMount.Text.Base64
