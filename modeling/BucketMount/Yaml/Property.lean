import BucketMount.Text.Hexadecimal
import BucketMount.Yaml.Cursor
import BucketMount.Yaml.Token

/-!
# Anchors, tags and directives

An anchor names a node and an alias stands for the node so named. A tag has a
handle, which a directive may give a meaning, and an ending. Endings and meanings
are spelled in the characters of addresses, where three characters may spell any
byte as long as the bytes begin like the encoding of a character.
-/

namespace BucketMount.Yaml

/-- Reads a name from behind the mark of an anchor or an alias. -/
def readName (isAlias : Bool) (cursor : Cursor) : Except Malformation (String × Cursor) :=
  let name := cursor.run inName
  let cursor := cursor.skipWhile inName
  let closed := ends cursor.rest
    || cursor.meets fun next => ['?', ':', ',', ']', '\x7d', '%', '@', '\x60'].contains next
  if name.isEmpty || !closed then .error (.nameExpected isAlias)
  else .ok (String.ofList name, cursor)

/-- True for a character of a tag. The marks of flows may only stand in a tag between
angle brackets or in a directive. -/
def inUri (bracketed : Bool) (character : Char) : Bool :=
  inName character
    || [';', '/', '?', ':', '@', '&', '=', '+', '$', '.', '!', '~', '*', '\x27', '(', ')'].contains
      character
    || bracketed && [',', '[', ']'].contains character

/-- How many bytes the encoding of a character has that begins with a byte; none if
no encoding does. -/
def encodedWidth? (octet : Nat) : Option Nat :=
  if octet < 0x80 then some 1
  else if octet < 0xc0 then none
  else if octet < 0xe0 then some 2
  else if octet < 0xf0 then some 3
  else if octet < 0xf8 then some 4
  else none

/-- Reads bytes in the characters of addresses, while so many are missing from the
encoding of a character. -/
def readUri (bracketed directive : Bool) (missing : Nat) (place : Place) (bytes : List UInt8) :
    List Char → Except Malformation (List UInt8 × Cursor)
  | [] => if 0 < missing then .error (.octetExpected directive) else .ok (bytes.reverse, ⟨place, []⟩)
  | character :: rest =>
    let next := place.after character
    if character = '%' then
      match rest with
      | high :: low :: behind =>
        match Text.hexValue? high, Text.hexValue? low with
        | some high', some low' =>
          let octet := high' * 16 + low'
          let next := (next.after high).after low
          let more (missing : Nat) :=
            readUri bracketed directive missing next (octet.toUInt8 :: bytes) behind
          if 0 < missing then
            if 0x80 ≤ octet ∧ octet < 0xc0 then more (missing - 1)
            else .error (.octetTrails directive)
          else match encodedWidth? octet with
            | some width => more (width - 1)
            | none => .error (.octetLeads directive)
        | _, _ => .error (.octetExpected directive)
      | _ => .error (.octetExpected directive)
    else if 0 < missing then .error (.octetExpected directive)
    else if inUri bracketed character then
      readUri bracketed directive 0 next (character.toNat.toUInt8 :: bytes) rest
    else .ok (bytes.reverse, ⟨place, character :: rest⟩)

/-- Reads the bytes of an address; there must be one, unless something stands before. -/
def readAddress (bracketed directive : Bool) (behind : Bool) (cursor : Cursor) :
    Except Malformation (List UInt8 × Cursor) := do
  let (bytes, next) ← readUri bracketed directive 0 cursor.place [] cursor.rest
  if bytes.isEmpty && !behind then throw (.uriExpected directive)
  pure (bytes, next)

/-- Reads the handle of a tag: a mark, a name and a second mark, of which only the
first must be there. -/
def readHandle (directive : Bool) (cursor : Cursor) : Except Malformation (List Char × Cursor) :=
  if !cursor.meets (· == '!') then .error (.handleWithoutMark directive)
  else
    let cursor := cursor.skip 1
    let name := cursor.run inName
    let cursor := cursor.skipWhile inName
    if cursor.meets (· == '!') then .ok ('!' :: (name ++ ['!']), cursor.skip 1)
    else if directive && !name.isEmpty then .error .handleUnclosed
    else .ok ('!' :: name, cursor)

/-- The bytes of a name. -/
def bytesOf (name : List Char) : List UInt8 := name.map fun character => character.toNat.toUInt8

/-- Reads a tag. What looks like a handle without its second mark is the handle of
one mark and the beginning of the ending; a single mark is an ending without a
handle. -/
def readTag (inFlow : Bool) (cursor : Cursor) : Except Malformation (Token × Cursor) := do
  let (tag, cursor) ← match cursor.rest with
    | '!' :: '<' :: _ => do
      let (ending, cursor) ← readAddress true false false (cursor.skip 2)
      if !cursor.meets (· == '>') then throw .tagUnclosed
      pure (Token.tag "" ending, cursor.skip 1)
    | _ => do
      let (handle, cursor) ← readHandle false cursor
      let closed := 1 < handle.length && handle.getLast? == some '!'
      let (bytes, cursor) ← readAddress false false (!closed) cursor
      let token := if closed then Token.tag (String.ofList handle) bytes
        else match bytesOf (handle.drop 1) ++ bytes with
          | [] => .tag "" [33]
          | ending => .tag "!" ending
      pure (token, cursor)
  if !ends cursor.rest && !(inFlow && cursor.meets (· == ',')) then throw .tagGoesOn
  pure (tag, cursor)

/-- The number in a run of digits. -/
def digitsValue (digits : List Char) : Nat :=
  digits.foldl (fun value digit => value * 10 + (digit.toNat - 48)) 0

/-- Reads a part of a version, of at most nine digits. -/
def readVersionPart (cursor : Cursor) : Except Malformation (Nat × Cursor) :=
  let digits := cursor.run Char.isDigit
  if 9 < digits.length then .error .versionTooLong
  else if digits.isEmpty then .error .versionWithoutNumber
  else .ok (digitsValue digits, cursor.skipWhile Char.isDigit)

/-- Reads the value of a directive that tells the version. -/
def readVersion (cursor : Cursor) : Except Malformation (Token × Cursor) := do
  let (major, cursor) ← readVersionPart (cursor.skipWhile isBlank)
  if !cursor.meets (· == '.') then throw .versionWithoutPoint
  let (minor, cursor) ← readVersionPart (cursor.skip 1)
  pure (.version major minor, cursor)

/-- Reads the value of a directive that gives a handle its meaning. -/
def readMeaning (cursor : Cursor) : Except Malformation (Token × Cursor) := do
  let (handle, cursor) ← readHandle true (cursor.skipWhile isBlank)
  if !cursor.meets isBlank then throw .handleGoesOn
  let (meaning, cursor) ← readAddress true true false (cursor.skipWhile isBlank)
  if !ends cursor.rest then throw .meaningGoesOn
  pure (.handle (String.ofList handle) meaning, cursor)

/-- Reads a directive from behind its mark, and the rest of its line. -/
def readDirective (cursor : Cursor) : Except Malformation (Token × Cursor) := do
  let name := cursor.run inName
  let cursor := cursor.skipWhile inName
  if name.isEmpty then throw .directiveUnnamed
  if !ends cursor.rest then throw .directiveNameGoesOn
  let (token, cursor) ← match String.ofList name with
    | "YAML" => readVersion cursor
    | "TAG" => readMeaning cursor
    | _ => .error .directiveUnknown
  let cursor := (cursor.skipWhile isBlank).skipComment
  if cursor.rest.isEmpty then pure (token, cursor)
  else if cursor.meets isBreak then pure (token, cursor.skip 1)
  else throw .directiveGoesOn

end BucketMount.Yaml
