import BucketMount.Yaml.Malformation

/-!
# A place in a YAML text

A line ends at a line feed, a carriage return, both together, or one of three
breaks of other alphabets. The first four are the same break to every reader, so
a text is first brought to one spelling of it; a line separator and a paragraph
separator stay what they are.

A cursor is what is left of the text and where that stands: its line, its column
and its distance from the beginning, all counted in characters.
-/

namespace BucketMount.Yaml

/-- True for a line break of a text in its one spelling. -/
def isBreak (character : Char) : Bool :=
  character == '\n' || character == '\u2028' || character == '\u2029'

/-- True for the two blanks. -/
def isBlank (character : Char) : Bool := character == ' ' || character == '\t'

/-- True for a character of the names of anchors, handles and directives. -/
def inName (character : Char) : Bool :=
  character.isAlphanum || character == '_' || character == '-'

/-- True if a text begins with a blank or a break, or is at its end. -/
def ends : List Char → Bool
  | [] => true
  | character :: _ => isBlank character || isBreak character

/-- True if a text begins with three marks that stand alone. -/
def beginsMark (mark : Char) : List Char → Bool
  | first :: second :: third :: rest =>
    first == mark && second == mark && third == mark && ends rest
  | _ => false

/-- True if a text begins with a mark between documents. -/
def beginsDocumentMark (characters : List Char) : Bool :=
  beginsMark '-' characters || beginsMark '.' characters

/-- A text with one spelling of the usual line break. -/
def uniform : List Char → List Char
  | '\r' :: '\n' :: rest => '\n' :: uniform rest
  | '\r' :: rest => '\n' :: uniform rest
  | character :: rest => (if character = '\x85' then '\n' else character) :: uniform rest
  | [] => []

/-- True for a character that a document may hold. -/
def isAllowed (character : Char) : Bool :=
  let code := character.toNat
  code == 0x09 || code == 0x0a || code == 0x0d || (0x20 ≤ code && code ≤ 0x7e) || code == 0x85
    || (0xa0 ≤ code && code != 0xfeff && code != 0xfffe && code != 0xffff)

/-- Where a character stands. -/
structure Place where
  line : Nat
  column : Nat
  index : Nat
  deriving DecidableEq, Repr

namespace Place

/-- The beginning of a text. -/
def start : Place := ⟨0, 0, 0⟩

/-- The place behind a character that stands here. -/
def after (place : Place) (character : Char) : Place :=
  if isBreak character then ⟨place.line + 1, 0, place.index + 1⟩
  else { place with column := place.column + 1, index := place.index + 1 }

end Place

/-- The rest of a text and where it stands. -/
structure Cursor where
  place : Place
  rest : List Char
  deriving DecidableEq, Repr

namespace Cursor

/-- Moves behind so many characters. -/
def skip (count : Nat) (cursor : Cursor) : Cursor :=
  ⟨(cursor.rest.take count).foldl Place.after cursor.place, cursor.rest.drop count⟩

/-- The characters up to the first that fails a test. -/
def run (test : Char → Bool) (cursor : Cursor) : List Char := cursor.rest.takeWhile test

/-- Moves behind the characters up to the first that fails a test. -/
def skipWhile (test : Char → Bool) (cursor : Cursor) : Cursor :=
  ⟨(cursor.run test).foldl Place.after cursor.place, cursor.rest.dropWhile test⟩

/-- Moves behind a comment, if one begins here. -/
def skipComment (cursor : Cursor) : Cursor :=
  if cursor.rest.head? = some '#' then cursor.skipWhile fun character => !isBreak character
  else cursor

/-- True if the next character passes a test. -/
def meets (test : Char → Bool) (cursor : Cursor) : Bool := cursor.rest.head?.any test

/-- The number of bytes before the first forbidden character, if there is one. -/
def forbidden? (offset : Nat) : List Char → Option Nat
  | [] => none
  | character :: rest =>
    if isAllowed character then forbidden? (offset + character.utf8Size) rest else some offset

/-- The beginning of a text. A byte order mark there is passed over. -/
def ofText (text : String) : Except Malformation Cursor :=
  let (offset, characters) := match text.toList with
    | '\ufeff' :: rest => (3, rest)
    | characters => (0, characters)
  match forbidden? offset characters with
  | some offset => .error (.forbiddenCharacter offset)
  | none => .ok ⟨.start, uniform characters⟩

end Cursor

end BucketMount.Yaml
