import BucketMount.Text.Hexadecimal
import BucketMount.Yaml.Cursor

/-!
# Scalars of a YAML text

A scalar is plain, stands between quotes, or is a block of indented lines. In the
first two a line break between words counts as a blank, and of several breaks the
first does not count. A block keeps its lines or folds them in the same way, but
never at a line that is indented further.

Every reader returns the text of the scalar and the cursor behind it. Texts are
collected back to front while they are read.
-/

namespace BucketMount.Yaml

/-- What stands between two words: blanks of one line, or line breaks. The first
break is missing if it was escaped. Later ones stand back to front. -/
inductive Gap where
  | blanks (seen : List Char)
  | breaks (first : Option Char) (later : List Char)

namespace Gap

/-- Nothing between two characters. -/
def empty : Gap := .blanks []

/-- True if nothing was seen. -/
def isEmpty : Gap → Bool
  | .blanks seen => seen.isEmpty
  | .breaks _ _ => false

/-- True if a line has ended. -/
def isBroken : Gap → Bool
  | .blanks _ => false
  | .breaks _ _ => true

/-- A gap with one more blank or break. Blanks behind a break do not count, and a
break makes the blanks before it count for nothing. -/
def add (gap : Gap) (character : Char) : Gap :=
  match gap, isBreak character with
  | .blanks _, true => .breaks (some character) []
  | .blanks seen, false => .blanks (character :: seen)
  | .breaks first later, true => .breaks first (character :: later)
  | .breaks first later, false => .breaks first later

/-- What a gap contributes to the text, back to front. -/
def folded : Gap → List Char
  | .blanks seen => seen
  | .breaks (some '\n') [] => [' ']
  | .breaks (some '\n') later => later
  | .breaks first later => later ++ first.toList

end Gap

/-- A scalar that has been read. Behind one that ends on a later line than its last
word a new line has begun. -/
structure ScalarRead where
  text : String
  cursor : Cursor
  newLine : Bool

/-- True for a mark that ends a plain scalar inside brackets. -/
def isFlowMark (character : Char) : Bool :=
  [',', '[', ']', '\x7b', '\x7d'].contains character

/-- A plain scalar that ends before a gap. -/
def plainRead (text : List Char) (gap : Gap) (place : Place) (rest : List Char) : ScalarRead :=
  ⟨String.ofList text.reverse, ⟨place, rest⟩, gap.isBroken⟩

/-- Reads a plain scalar: the words behind the ones collected. Outside of brackets
a later line must be indented by so many columns. -/
def readPlain (inFlow : Bool) (least : Nat) (place : Place) (text : List Char) (gap : Gap) :
    List Char → Except Malformation ScalarRead
  | [] => .ok (plainRead text gap place [])
  | character :: rest =>
    if isBlank character || isBreak character then
      if gap.isBroken && place.column < least && character == '\t' then .error .tabBeforeWord
      else readPlain inFlow least (place.after character) text (gap.add character) rest
    else if !gap.isEmpty && ((!inFlow && place.column < least) || character == '#'
        || (place.column == 0 && beginsDocumentMark (character :: rest))) then
      .ok (plainRead text gap place (character :: rest))
    else if inFlow && character == ':' && rest.head?.any fun next => isFlowMark next || next == '?'
      then .error .colonInFlow
    else if (character == ':' && ends rest) || (inFlow && isFlowMark character) then
      .ok (plainRead text gap place (character :: rest))
    else readPlain inFlow least (place.after character) (character :: (gap.folded ++ text)) .empty
      rest

/-- Where the reader of a quoted scalar stands: between characters, behind a
backslash, or before so many more digits of a code point. -/
inductive QuoteState where
  | plain
  | escape
  | digits (missing : Nat) (value : Nat)

/-- The character of an escape that is one letter long. -/
def escaped? : Char → Option Char
  | '0' => some '\x00'
  | 'a' => some '\x07'
  | 'b' => some '\x08'
  | 't' | '\t' => some '\t'
  | 'n' => some '\n'
  | 'v' => some '\x0b'
  | 'f' => some '\x0c'
  | 'r' => some '\r'
  | 'e' => some '\x1b'
  | ' ' => some ' '
  | '"' => some '"'
  | '/' => some '/'
  | '\\' => some '\\'
  | 'N' => some '\x85'
  | '_' => some '\xa0'
  | 'L' => some '\u2028'
  | 'P' => some '\u2029'
  | _ => none

/-- The number of digits behind the letter of an escape that spells a code point. -/
def escapedDigits? : Char → Option Nat
  | 'x' => some 2
  | 'u' => some 4
  | 'U' => some 8
  | _ => none

/-- True for the code point of a character. -/
def isCodePoint (value : Nat) : Bool :=
  value < 0xd800 || (0xdfff < value && value ≤ 0x10ffff)

/-- Reads a quoted scalar from behind its opening quote. Only double quotes know
escapes; between single ones a quote is written twice. -/
def readQuoted (double : Bool) (state : QuoteState) (place : Place) (text : List Char)
    (gap : Gap) : List Char → Except Malformation ScalarRead
  | [] =>
    match state with
    | .plain => .error .quoteUnclosed
    | .escape => .error .escapeUnknown
    | .digits _ _ => .error .digitsExpected
  | character :: rest =>
    let next := place.after character
    match state with
    | .plain =>
      if isBlank character || isBreak character then
        readQuoted double .plain next text (gap.add character) rest
      else if place.column == 0 && beginsDocumentMark (character :: rest) then
        .error .quoteMeetsMark
      else
        let text := gap.folded ++ text
        if character = (if double then '"' else '\x27') then
          match double, rest with
          | false, '\x27' :: more =>
            readQuoted double .plain (next.after '\x27') ('\x27' :: text) .empty more
          | _, _ => .ok ⟨String.ofList text.reverse, ⟨next, rest⟩, false⟩
        else if double && character == '\\' then readQuoted double .escape next text .empty rest
        else readQuoted double .plain next (character :: text) .empty rest
    | .escape =>
      if isBreak character then readQuoted double .plain next text (.breaks none []) rest
      else match escapedDigits? character, escaped? character with
        | some missing, _ => readQuoted double (.digits missing 0) next text .empty rest
        | none, some spelled => readQuoted double .plain next (spelled :: text) .empty rest
        | none, none => .error .escapeUnknown
    | .digits missing value =>
      match Text.hexValue? character with
      | none => .error .digitsExpected
      | some digit =>
        let value := value * 16 + digit
        if 1 < missing then readQuoted double (.digits (missing - 1) value) next text .empty rest
        else if isCodePoint value then
          readQuoted double .plain next (Char.ofNat value :: text) .empty rest
        else .error .codePointInvalid

/-- What becomes of the line breaks at the end of a block. -/
inductive Chomping where
  | strip
  | clip
  | keep
  deriving DecidableEq, Repr

/-- What has been read of a block: its text up to the last line with anything on
it, the break behind that line, and the breaks of empty lines since. A line that
begins with a blank keeps the breaks around it. -/
structure BlockText where
  text : List Char
  last : Option Char
  empty : List Char
  indented : Bool

namespace BlockText

/-- Nothing read. -/
def start : BlockText := ⟨[], none, [], false⟩

/-- The block at the beginning of a line that begins with a character. -/
def beginLine (folds : Bool) (character : Char) (block : BlockText) : BlockText :=
  let blank := isBlank character
  let text :=
    if folds && block.last == some '\n' && !block.indented && !blank then
      (if block.empty.isEmpty then [' '] else block.empty) ++ block.text
    else block.empty ++ (block.last.toList ++ block.text)
  ⟨character :: text, none, [], blank⟩

/-- The whole text of a block. -/
def finish (chomping : Chomping) (block : BlockText) : String :=
  let last := block.last.toList ++ block.text
  String.ofList (match chomping with
    | .strip => block.text
    | .clip => last
    | .keep => block.empty ++ last).reverse

end BlockText

/-- Reads the lines of a block. Zero columns of indentation mean that the first line
with anything on it decides, which is no less than the columns given nor than any
empty line before. -/
def readBlockLines (folds : Bool) (chomping : Chomping) (least indentation widest : Nat)
    (inLine : Bool) (place : Place) (block : BlockText) :
    List Char → Except Malformation ScalarRead
  | [] => .ok ⟨block.finish chomping, ⟨place, []⟩, true⟩
  | character :: rest =>
    let next := place.after character
    if inLine then
      if isBreak character then
        readBlockLines folds chomping least indentation widest false next
          { block with last := some character } rest
      else readBlockLines folds chomping least indentation widest true next
        { block with text := character :: block.text } rest
    else
      let inMargin := indentation == 0 || place.column < indentation
      let widest := max widest place.column
      if inMargin && character == ' ' then
        readBlockLines folds chomping least indentation widest false next block rest
      else if inMargin && character == '\t' then .error .indentationByTab
      else if isBreak character then
        readBlockLines folds chomping least indentation widest false next
          { block with empty := character :: block.empty } rest
      else
        let indentation := if indentation = 0 then max widest (max least 1) else indentation
        if place.column = indentation then
          readBlockLines folds chomping least indentation widest true next
            (block.beginLine folds character) rest
        else .ok ⟨block.finish chomping, ⟨place, character :: rest⟩, true⟩

/-- The chomping that a mark asks for. -/
def chomping? : Char → Option Chomping
  | '+' => some .keep
  | '-' => some .strip
  | _ => none

/-- The head of a block behind its first character: a chomping and a number of
columns, in either order. -/
def readBlockHead (cursor : Cursor) : Except Malformation (Chomping × Nat × Cursor) :=
  let chomping (cursor : Cursor) : Option Chomping := cursor.rest.head?.bind chomping?
  let columns (cursor : Cursor) : Option Nat :=
    (cursor.rest.head?.filter Char.isDigit).map fun digit => digit.toNat - 48
  match chomping cursor, columns cursor with
  | some asked, _ =>
    let cursor := cursor.skip 1
    match columns cursor with
    | some 0 => .error .indentationZero
    | some count => .ok (asked, count, cursor.skip 1)
    | none => .ok (asked, 0, cursor)
  | none, some 0 => .error .indentationZero
  | none, some count =>
    let cursor := cursor.skip 1
    match chomping cursor with
    | some asked => .ok (asked, count, cursor.skip 1)
    | none => .ok (.clip, count, cursor)
  | none, none => .ok (.clip, 0, cursor)

/-- Reads a block from behind its first character. What surrounds it leaves it so
many columns at least. -/
def readBlock (folds : Bool) (least : Nat) (cursor : Cursor) :
    Except Malformation ScalarRead := do
  let (chomping, columns, cursor) ← readBlockHead cursor
  let cursor := (cursor.skipWhile isBlank).skipComment
  if !ends cursor.rest then throw .blockHeadGoesOn
  let cursor := if cursor.meets isBreak then cursor.skip 1 else cursor
  let indentation := if columns = 0 then 0 else (least - 1) + columns
  readBlockLines folds chomping least indentation 0 false cursor.place .start cursor.rest

end BucketMount.Yaml
