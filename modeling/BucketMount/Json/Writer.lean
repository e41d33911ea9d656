import BucketMount.Json.Basic

/-!
# Writing a tree

The compact form has no blanks. The indented form puts every item and member on
a line of its own, two more blanks deep, and leaves an empty list or object
closed on one line. Members are written in the order the tree holds them.

Only trees without faults are documents; a fault is written as nothing.
-/

namespace BucketMount.Json

/-- Four lower-case hexadecimal digits. -/
def fourDigits (code : Nat) : List Char :=
  let digits := Nat.toDigits 16 code
  List.replicate (4 - digits.length) '0' ++ digits

/-- One character of a string as it stands between its quotes. -/
def writtenCharacter (character : Char) : List Char :=
  if character = '"' then ['\\', '"']
  else if character = '\\' then ['\\', '\\']
  else if character = '\x08' then ['\\', 'b']
  else if character = '\x0c' then ['\\', 'f']
  else if character = '\n' then ['\\', 'n']
  else if character = '\r' then ['\\', 'r']
  else if character = '\t' then ['\\', 't']
  else if character.toNat < 0x20 then '\\' :: 'u' :: fourDigits character.toNat
  else [character]

/-- A string between its quotes. -/
def writtenString (text : String) : List Char :=
  '"' :: (text.toList.flatMap writtenCharacter ++ ['"'])

/-- A number: whole numbers in decimal, others in their shortest text. -/
def writtenNumber : Number → List Char
  | .whole value => (toString value).toList
  | .real value => value.text.toList

mutual

/-- The compact form of a value. -/
def written : Json → List Char
  | .null => ['n', 'u', 'l', 'l']
  | .boolean true => ['t', 'r', 'u', 'e']
  | .boolean false => ['f', 'a', 'l', 's', 'e']
  | .number value => writtenNumber value
  | .string value => writtenString value
  | .array items _ => '[' :: (writtenItems items ++ [']'])
  | .object members _ => '\x7b' :: (writtenMembers members ++ ['\x7d'])
  | .fault _ => []

/-- Items between commas. -/
def writtenItems : List Json → List Char
  | [] => []
  | [item] => written item
  | item :: rest => written item ++ ',' :: writtenItems rest

/-- Members between commas. -/
def writtenMembers : List (String × Json) → List Char
  | [] => []
  | [(key, value)] => writtenString key ++ ':' :: written value
  | (key, value) :: rest => writtenString key ++ ':' :: (written value ++ ',' :: writtenMembers rest)

end

/-- The compact text of a tree. -/
def text (value : Json) : String := String.ofList value.written

/-- A line break and so many blanks. -/
def newLine (indent : Nat) : List Char := '\n' :: List.replicate indent ' '

mutual

/-- The indented form of a value that stands so deep. -/
def indented (indent : Nat) : Json → List Char
  | .array [] _ => ['[', ']']
  | .array (item :: rest) _ =>
    '[' :: (indentedItems (indent + 2) (item :: rest) ++ newLine indent ++ [']'])
  | .object [] _ => ['\x7b', '\x7d']
  | .object (member :: rest) _ =>
    '\x7b' :: (indentedMembers (indent + 2) (member :: rest) ++ newLine indent ++ ['\x7d'])
  | other => written other

/-- Items on lines of their own. -/
def indentedItems (indent : Nat) : List Json → List Char
  | [] => []
  | [item] => newLine indent ++ indented indent item
  | item :: rest => newLine indent ++ indented indent item ++ ',' :: indentedItems indent rest

/-- Members on lines of their own. -/
def indentedMembers (indent : Nat) : List (String × Json) → List Char
  | [] => []
  | [(key, value)] => newLine indent ++ writtenString key ++ ':' :: ' ' :: indented indent value
  | (key, value) :: rest =>
    newLine indent ++ writtenString key ++ ':' :: ' ' :: (indented indent value
      ++ ',' :: indentedMembers indent rest)

end

/-- The indented text of a tree. -/
def indentedText (value : Json) : String := String.ofList (value.indented 0)

end BucketMount.Json
