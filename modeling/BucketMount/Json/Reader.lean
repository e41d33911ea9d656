import BucketMount.Json.Basic
import BucketMount.Text.Hexadecimal

/-!
# Reading a text into a tree

Reading never fails: the tree holds the faults. A list or an object whose entry
cannot be passed over ends there, since nothing behind such a place is reached by
any decoder. Entering the one hundred and twenty-eighth level of nesting is a
fault for a decoder that wants the value, and none for one that passes over it.

Strings are read by a small machine over their characters, so that the text of
an escape is consumed with the string it belongs to. A number that is no whole
number of 64 bits is read as a significand of at most 64 bits and a power of
ten; digits that no longer fit count as zeros.
-/

namespace BucketMount.Json

/-- The four blanks a document may contain. -/
def blank (character : Char) : Bool :=
  character == ' ' || character == '\n' || character == '\t' || character == '\r'

/-- The text behind its leading blanks. -/
def skipBlanks (characters : List Char) : List Char := characters.dropWhile blank

/-- True if the text is at least so many bytes long. -/
def hasBytes : Nat → List Char → Bool
  | 0, _ => true
  | _ + 1, [] => false
  | need + 1, character :: rest => hasBytes (need + 1 - character.utf8Size) rest

/-- The character of a one-letter escape. -/
def simpleEscape? : Char → Option Char
  | '"' => some '"'
  | '\\' => some '\\'
  | '/' => some '/'
  | 'b' => some '\x08'
  | 'f' => some '\x0c'
  | 'n' => some '\n'
  | 'r' => some '\r'
  | 't' => some '\t'
  | _ => none

/-- Where the reader of a string stands: between characters, behind a
backslash, inside four hexadecimal digits, or behind the first half of a
surrogate pair, which wants a second escape. -/
inductive StringState where
  | plain
  | escape
  | hex (missing : Nat) (value : Nat) (high : Option Nat)
  | pairBackslash (high : Nat)
  | pairLetter (high : Nat)
  deriving DecidableEq, Repr

/-- What a complete four-digit escape gives: a character, the first half of a
pair, or a malformation. -/
def unit (value : Nat) : Option Nat → Except Malformation (Char ⊕ Nat)
  | none =>
    if 0xDC00 ≤ value ∧ value ≤ 0xDFFF then .error .unpairedSurrogate
    else if 0xD800 ≤ value ∧ value ≤ 0xDBFF then .ok (.inr value)
    else .ok (.inl (Char.ofNat value))
  | some high =>
    if 0xDC00 ≤ value ∧ value ≤ 0xDFFF then
      .ok (.inl (Char.ofNat (0x10000 + (high - 0xD800) * 0x400 + (value - 0xDC00))))
    else .error .unpairedSurrogate

/-- Reads the characters of a string up to its closing quote. -/
def readString : StringState → List Char → Except Malformation (List Char × List Char)
  | _, [] => .error .stringEnds
  | .plain, character :: rest =>
    if character = '"' then .ok ([], rest)
    else if character = '\\' then readString .escape rest
    else if character.toNat < 0x20 then .error .controlCharacter
    else (readString .plain rest).map fun (text, rest) => (character :: text, rest)
  | .escape, character :: rest =>
    if character = 'u' then
      if hasBytes 4 rest then readString (.hex 4 0 none) rest else .error .stringEnds
    else match simpleEscape? character with
      | some escaped => (readString .plain rest).map fun (text, rest) => (escaped :: text, rest)
      | none => .error .badEscape
  | .hex missing value high, character :: rest =>
    match Text.hexValue? character with
    | none => .error .badEscape
    | some digit =>
      let value := value * 16 + digit
      if 1 < missing then readString (.hex (missing - 1) value high) rest
      else match unit value high with
        | .error cause => .error cause
        | .ok (.inl character) =>
          (readString .plain rest).map fun (text, rest) => (character :: text, rest)
        | .ok (.inr high) => readString (.pairBackslash high) rest
  | .pairBackslash high, character :: rest =>
    if character = '\\' then readString (.pairLetter high) rest else .error .surrogateEnds
  | .pairLetter high, character :: rest =>
    if character = 'u' then
      if hasBytes 4 rest then readString (.hex 4 0 (some high)) rest else .error .stringEnds
    else .error .surrogateEnds

/-- Where a reader stands that passes over a string. -/
inductive SkipState where
  | plain
  | escape
  | hex (missing : Nat)
  deriving DecidableEq, Repr

/-- Passes over the characters of a string. Escapes must be well formed, but the
characters they spell need not exist. -/
def skipString : SkipState → List Char → Except Malformation (List Char)
  | _, [] => .error .stringEnds
  | .plain, character :: rest =>
    if character = '"' then .ok rest
    else if character = '\\' then skipString .escape rest
    else if character.toNat < 0x20 then .error .controlCharacter
    else skipString .plain rest
  | .escape, character :: rest =>
    if character = 'u' then
      if hasBytes 4 rest then skipString (.hex 4) rest else .error .stringEnds
    else match simpleEscape? character with
      | some _ => skipString .plain rest
      | none => .error .badEscape
  | .hex missing, character :: rest =>
    match Text.hexValue? character with
    | none => .error .badEscape
    | some _ => skipString (if 1 < missing then .hex (missing - 1) else .plain) rest

/-- The error of passing over something, if there is one. -/
def errorOf {α : Type} : Except Malformation α → Option Malformation
  | .error cause => some cause
  | .ok _ => none

/-- The text behind something passed over; none is left behind an error. -/
def restOf : Except Malformation (List Char) → List Char
  | .error _ => []
  | .ok rest => rest

/-- A string from behind its opening quote. -/
def stringValue (characters : List Char) : Json × List Char :=
  match readString .plain characters with
  | .ok (text, rest) => (.string (String.ofList text), rest)
  | .error cause =>
    let passed := skipString .plain characters
    (.fault ⟨cause, errorOf passed, cause⟩, restOf passed)

/-- Passes over digits. -/
def skipDigits (characters : List Char) : List Char := characters.dropWhile Char.isDigit

/-- Passes over the exponent of a number, from behind its letter. -/
def skipExponent (characters : List Char) : Except Malformation (List Char) :=
  let unsigned := match characters with
    | '+' :: rest => rest
    | '-' :: rest => rest
    | _ => characters
  match unsigned with
  | digit :: rest => if digit.isDigit then .ok (skipDigits rest) else .error .badNumber
  | [] => .error .badNumber

/-- Passes over what may follow the whole part of a number. -/
def skipFraction (characters : List Char) : Except Malformation (List Char) :=
  match characters with
  | '.' :: rest =>
    match rest with
    | digit :: _ =>
      if digit.isDigit then
        match skipDigits rest with
        | 'e' :: rest => skipExponent rest
        | 'E' :: rest => skipExponent rest
        | rest => .ok rest
      else .error .badNumber
    | [] => .error .badNumber
  | 'e' :: rest => skipExponent rest
  | 'E' :: rest => skipExponent rest
  | rest => .ok rest

/-- Passes over a number. -/
def skipNumber (characters : List Char) : Except Malformation (List Char) :=
  let unsigned := match characters with
    | '-' :: rest => rest
    | _ => characters
  match unsigned with
  | '0' :: rest =>
    match rest with
    | digit :: _ => if digit.isDigit then .error .badNumber else skipFraction rest
    | [] => .ok []
  | digit :: rest => if digit.isDigit then skipFraction (skipDigits rest) else .error .badNumber
  | [] => .error .badNumber

/-- The largest significand. -/
def significandLimit : Nat := 18446744073709551615

/-- Appends digits to a significand as long as it fits; also counts them. -/
def accumulate (significand : Nat) : List Char → Nat × Nat
  | [] => (significand, 0)
  | digit :: rest =>
    let next := significand * 10 + (digit.toNat - 48)
    if significandLimit < next then (significand, 0)
    else
      let (total, count) := accumulate next rest
      (total, count + 1)

/-- The number with a significand and a power of ten. -/
def realNumber (negative : Bool) (significand : Nat) (exponent : Int) :
    Except Malformation Number :=
  match Binary64.ofScaled? negative significand exponent with
  | some value => .ok (.real value)
  | none => .error .numberRange

/-- Reads an exponent from behind its letter. An exponent beyond 32 bits makes
the number zero, or too large. -/
def readExponent (negative : Bool) (significand : Nat) (exponent : Int)
    (characters : List Char) : Except Malformation (Number × List Char) :=
  let (down, unsigned) := match characters with
    | '+' :: rest => (false, rest)
    | '-' :: rest => (true, rest)
    | _ => (false, characters)
  match unsigned with
  | [] => .error .valueEnds
  | digit :: _ =>
    if digit.isDigit then
      let power := Timestamp.decimal (unsigned.takeWhile Char.isDigit)
      let rest := skipDigits unsigned
      if 2147483647 < power then
        if significand ≠ 0 ∧ !down then .error .numberRange
        else .ok (.real (.zero negative), rest)
      else
        (realNumber negative significand (if down then exponent - power else exponent + power)).map
          fun value => (value, rest)
    else .error .badNumber

/-- Reads a fraction from behind its point. -/
def readFraction (negative : Bool) (significand : Nat) (exponent : Int)
    (characters : List Char) : Except Malformation (Number × List Char) :=
  let digits := characters.takeWhile Char.isDigit
  let rest := skipDigits characters
  if digits.isEmpty then .error (if rest.isEmpty then .valueEnds else .badNumber)
  else
    let (significand, count) := accumulate significand digits
    let exponent := exponent - count
    match rest with
    | 'e' :: rest => readExponent negative significand exponent rest
    | 'E' :: rest => readExponent negative significand exponent rest
    | rest => (realNumber negative significand exponent).map fun value => (value, rest)

/-- A whole number. Minus zero and a negative number below 64 bits are binary. -/
def wholeNumber (negative : Bool) (significand : Nat) : Except Malformation Number :=
  if !negative then .ok (.whole significand)
  else if significand = 0 ∨ 9223372036854775808 < significand then
    realNumber true significand 0
  else .ok (.whole (-significand))

/-- Reads a number. -/
def readNumber (characters : List Char) : Except Malformation (Number × List Char) :=
  let (negative, unsigned) := match characters with
    | '-' :: rest => (true, rest)
    | _ => (false, characters)
  match unsigned with
  | [] => .error .valueEnds
  | first :: rest =>
    if !first.isDigit then .error .badNumber
    else if first == '0' && (match rest with | digit :: _ => digit.isDigit | [] => false) then
      .error .badNumber
    else
      let digits := unsigned.takeWhile Char.isDigit
      let rest := skipDigits unsigned
      let (significand, count) := accumulate 0 digits
      let exponent : Int := (digits.length - count : Nat)
      match rest with
      | '.' :: rest => readFraction negative significand exponent rest
      | 'e' :: rest => readExponent negative significand exponent rest
      | 'E' :: rest => readExponent negative significand exponent rest
      | rest =>
        if exponent = 0 then (wholeNumber negative significand).map fun value => (value, rest)
        else (realNumber negative significand exponent).map fun value => (value, rest)

/-- A number. A variant's reader refuses any number at sight. -/
def numberValue (characters : List Char) : Json × List Char :=
  match readNumber characters with
  | .ok (value, rest) => (.number value, rest)
  | .error cause =>
    let passed := skipNumber characters
    (.fault ⟨cause, errorOf passed, .valueExpected⟩, restOf passed)

/-- The rest of a word whose first letter has been seen. A variant's reader
refuses any bare word at sight. -/
def wordValue (value : Json) : (letters : List Char) → List Char → Json × List Char
  | [], rest => (value, rest)
  | _ :: _, [] => (.fault ⟨.valueEnds, some .valueEnds, .valueExpected⟩, [])
  | letter :: letters, character :: rest =>
    if letter = character then wordValue value letters rest
    else (.fault ⟨.wordExpected, some .wordExpected, .valueExpected⟩, [])

/-- The deepest nesting of lists and objects that can be wanted. -/
def deepest : Nat := 127

/-- A list or an object inside so many others. -/
def nested (depth : Nat) (value : Json) : Json :=
  if deepest ≤ depth then .fault ⟨.tooDeep, value.skipFault, .tooDeep⟩ else value

mutual

/-- Reads one value inside so many lists and objects. The fuel bounds the
characters left. -/
def readValue : (fuel : Nat) → (depth : Nat) → List Char → Json × List Char
  | 0, _, _ => (.fault (.always .valueEnds), [])
  | fuel + 1, depth, characters =>
    match skipBlanks characters with
    | [] => (.fault (.always .valueEnds), [])
    | character :: rest =>
      if character = '"' then stringValue rest
      else if character = '[' then
        let (items, tail, rest) := readItems fuel (depth + 1) true rest
        (nested depth (.array items tail), rest)
      else if character = '\x7b' then
        let (members, tail, rest) := readMembers fuel (depth + 1) true rest
        (nested depth (.object members tail), rest)
      else if character = 'n' then wordValue .null ['u', 'l', 'l'] rest
      else if character = 't' then wordValue (.boolean true) ['r', 'u', 'e'] rest
      else if character = 'f' then wordValue (.boolean false) ['a', 'l', 's', 'e'] rest
      else if character = '-' ∨ character.isDigit then numberValue (character :: rest)
      else (.fault (.always .valueExpected), [])

/-- Reads the items of a list up to its bracket. -/
def readItems : (fuel : Nat) → (depth : Nat) → (first : Bool) → List Char →
    List Json × Option Fault × List Char
  | 0, _, _, _ => ([], some (.always .listEnds), [])
  | fuel + 1, depth, first, characters =>
    match skipBlanks characters with
    | [] => ([], some (.always .listEnds), [])
    | character :: rest =>
      if character = ']' then ([], none, rest)
      else if first then readItem fuel depth (character :: rest)
      else if character = ',' then
        match skipBlanks rest with
        | [] => ([], some (.always .valueEnds), [])
        | next :: rest =>
          if next = ']' then
            ([], some ⟨.trailingComma, some .valueExpected, .trailingComma⟩, [])
          else readItem fuel depth (next :: rest)
      else ([], some (.always .listSeparatorExpected), [])

/-- Reads one item and those behind it. -/
def readItem : (fuel : Nat) → (depth : Nat) → List Char → List Json × Option Fault × List Char
  | 0, _, _ => ([], some (.always .listEnds), [])
  | fuel + 1, depth, characters =>
    let (item, rest) := readValue fuel depth characters
    let (items, tail, rest) := readItems fuel depth false rest
    (item :: items, tail, rest)

/-- Reads the members of an object up to its brace. -/
def readMembers : (fuel : Nat) → (depth : Nat) → (first : Bool) → List Char →
    List (String × Json) × Option Fault × List Char
  | 0, _, _, _ => ([], some (.always .objectEnds), [])
  | fuel + 1, depth, first, characters =>
    match skipBlanks characters with
    | [] => ([], some (.always .objectEnds), [])
    | character :: rest =>
      if character = '\x7d' then ([], none, rest)
      else if first then
        if character = '"' then readMember fuel depth rest
        else ([], some (.always .keyExpected), [])
      else if character = ',' then
        match skipBlanks rest with
        | [] => ([], some ⟨.valueEnds, some .objectEnds, .valueEnds⟩, [])
        | next :: rest =>
          if next = '"' then readMember fuel depth rest
          else if next = '\x7d' then
            ([], some ⟨.trailingComma, some .keyExpected, .trailingComma⟩, [])
          else ([], some (.always .keyExpected), [])
      else ([], some (.always .objectSeparatorExpected), [])

/-- Reads one member from behind the quote of its name, and those behind it. A
name that cannot be read ends the members for a decoder that wants them; whether
the rest can be passed over is decided here. -/
def readMember : (fuel : Nat) → (depth : Nat) → List Char →
    List (String × Json) × Option Fault × List Char
  | 0, _, _ => ([], some (.always .objectEnds), [])
  | fuel + 1, depth, characters =>
    match readString .plain characters with
    | .ok (key, rest) =>
      let (value, members, tail, rest) := readAfterKey fuel depth rest
      ((String.ofList key, value) :: members, tail, rest)
    | .error cause =>
      match skipString .plain characters with
      | .error passed => ([], some ⟨cause, some passed, cause⟩, [])
      | .ok rest =>
        let (value, members, tail, rest) := readAfterKey fuel depth rest
        let skipped := ((value.skipFault).or (skipMembers members)).or (tail.bind Fault.skipped)
        ([], some ⟨cause, skipped, cause⟩, rest)

/-- Reads the value of a member from behind its name, and the members behind. -/
def readAfterKey : (fuel : Nat) → (depth : Nat) → List Char →
    Json × List (String × Json) × Option Fault × List Char
  | 0, _, _ => (.fault (.always .objectEnds), [], none, [])
  | fuel + 1, depth, characters =>
    match skipBlanks characters with
    | [] => (.fault (.always .objectEnds), [], none, [])
    | character :: rest =>
      if character = ':' then
        let (value, rest) := readValue fuel depth rest
        let (members, tail, rest) := readMembers fuel depth false rest
        (value, members, tail, rest)
      else (.fault (.always .colonExpected), [], none, [])

end

/-- Enough fuel for a text: a character is consumed by at most four calls. -/
def enoughFuel (characters : List Char) : Nat := 4 * characters.length + 4

/-- The tree of a text and what stands behind its value. -/
def read (text : String) : Json × List Char :=
  readValue (enoughFuel text.toList) 0 text.toList

/-- The tree of a text. -/
def ofText (text : String) : Json := (read text).1

/-- Nothing but blanks may stand behind the value of a document. -/
def finish (rest : List Char) : Except Refusal Unit :=
  if (skipBlanks rest).isEmpty then .ok () else .error (.malformed .trailingCharacters)

end BucketMount.Json
