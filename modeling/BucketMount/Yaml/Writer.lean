import BucketMount.Json.Writer

/-!
# Trees as YAML

Block style throughout: members on lines of their own, nested ones two blanks
deeper, the items of a list behind a dash that stands no deeper than the list's
own key. Empty lists and objects are written in brackets. A text of several lines
is written as a literal block; any other text is written as it is, or in single
quotes where it would be read as something else.

Literal blocks whose first line begins with a blank are not modelled.
-/

namespace BucketMount.Yaml

/-- The words that stand for no text. -/
def reserved : List String :=
  ["null", "Null", "NULL", "~", "true", "True", "TRUE", "false", "False", "FALSE", ".nan", ".NaN",
    ".NAN", ".inf", ".Inf", ".INF", "-.inf", "-.Inf", "-.INF", "+.inf", "+.Inf", "+.INF"]

/-- Characters that have a meaning at the start of a text. -/
def indicators : List Char :=
  ['-', '?', ':', ',', '[', ']', '\x7b', '\x7d', '#', '&', '*', '!', '|', '>', '\x27', '"', '%', '@',
    '\x60', ' ']

/-- True if some character stands directly before a blank or the end. -/
def beforeBlank (mark : Char) : List Char → Bool
  | [] => false
  | [character] => character == mark
  | character :: next :: rest =>
    character == mark && next == ' ' || beforeBlank mark (next :: rest)

/-- True if a blank stands directly before a character. -/
def behindBlank (mark : Char) : List Char → Bool
  | [] | [_] => false
  | character :: next :: rest =>
    character == ' ' && next == mark || behindBlank mark (next :: rest)

/-- True if a text could be read as a number. -/
def numeric (characters : List Char) : Bool :=
  match characters with
  | [] => false
  | first :: rest =>
    (first.isDigit || ((first == '+' || first == '-' || first == '.') && rest.any Char.isDigit))

/-- True if a text of one line may be written as it is. -/
def plain (text : String) : Bool :=
  let characters := text.toList
  match characters with
  | [] => false
  | first :: _ =>
    !(indicators.contains first || reserved.contains text || numeric characters
      || beforeBlank ':' characters || behindBlank '#' characters
      || characters.getLast? == some ' ')

/-- A text in single quotes; a quote inside is doubled. -/
def quoted (text : String) : String :=
  "'" ++ String.ofList (text.toList.flatMap fun character =>
    if character = '\x27' then [character, character] else [character]) ++ "'"

/-- The head of a literal block: what becomes of the line breaks at its end. -/
def literalHead (characters : List Char) : String :=
  match characters.reverse with
  | '\n' :: '\n' :: _ => "|+"
  | '\n' :: _ => "|"
  | _ => "|-"

/-- The lines of a text. -/
def linesOf (text : String) : List String :=
  (text.toList.splitOn '\n').map String.ofList

/-- A line two blanks deeper; an empty line stays empty. -/
def deeper (line : String) : String := if line = "" then "" else "  " ++ line

/-- What stands behind a key or a dash: its text on the same line and the lines
below, and whether those belong one step deeper below a key. -/
inductive Layout where
  | inline (text : String) (below : List String)
  | list (lines : List String)
  | block (lines : List String)

/-- A text as it stands behind a key or a dash. -/
def textLayout (text : String) : Layout :=
  if text.toList.contains '\n' then
    .inline (literalHead text.toList) ((linesOf text).map deeper)
  else .inline (if plain text then text else quoted text) []

/-- The text of a key. -/
def keyText (key : String) : String := if plain key then key else quoted key

/-- A member with its key. -/
def underKey (key : String) : Layout → List String
  | .inline text below => (key ++ ": " ++ text) :: below
  | .list lines => (key ++ ":") :: lines
  | .block lines => (key ++ ":") :: lines.map deeper

/-- An item with its dash. -/
def underDash : Layout → List String
  | .inline text below => ("- " ++ text) :: below
  | .list lines | .block lines =>
    match lines with
    | [] => []
    | first :: rest => ("- " ++ first) :: rest.map deeper

mutual

/-- How a value is laid out. -/
def layout : Json → Layout
  | .null => .inline "null" []
  | .boolean value => .inline (if value then "true" else "false") []
  | .number value => .inline (String.ofList (Json.writtenNumber value)) []
  | .string value => textLayout value
  | .array [] _ => .inline "[]" []
  | .array items _ => .list (itemLines items)
  | .object [] _ => .inline "\x7b\x7d" []
  | .object members _ => .block (memberLines members)
  | .fault _ => .inline "" []

/-- The lines of the items of a list. -/
def itemLines : List Json → List String
  | [] => []
  | item :: rest => underDash (layout item) ++ itemLines rest

/-- The lines of the members of an object. -/
def memberLines : List (String × Json) → List String
  | [] => []
  | (key, value) :: rest => underKey (keyText key) (layout value) ++ memberLines rest

end

/-- The document of a tree, with a line break at its end. -/
def text (value : Json) : String :=
  let lines := match layout value with
    | .inline first below => first :: below
    | .list lines | .block lines => lines
  String.join (lines.map (· ++ "\n"))

end BucketMount.Yaml
