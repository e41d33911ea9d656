import BucketMount.Yaml.Property
import BucketMount.Yaml.Scalar

/-!
# From a text to its tokens

Outside of brackets the indentation says where blocks begin and end. A key needs
no mark of its own: anything that may be a key is remembered until a colon shows
that it was one, and then the tokens that it lacks are put before it. A key stands
on one line and is at most so long; what stands at the margin of a mapping must
be a key.

A reader of tokens sees a token only when no colon can change what stands before
it any more. Where the text stops being YAML, only the tokens seen by then count,
and a fault stands behind them.
-/

namespace BucketMount.Yaml

/-- Something that may turn out to be a key: the number of its first token and where
it stands. Where nothing but a key may stand, it is required to be one. -/
structure PossibleKey where
  number : Nat
  required : Bool
  place : Place
  deriving DecidableEq, Repr

/-- A text whose first tokens are known: the margins of the blocks that are open,
the innermost first, and what may be a key, inside the innermost brackets and
outside of them. -/
structure TokenStream where
  cursor : Cursor
  tokens : Array Token
  margins : List Nat
  possible : Option PossibleKey
  outer : List (Option PossibleKey)
  keyAllowed : Bool

/-- The most characters that a key may have. -/
def longestKey : Nat := 1024

namespace TokenStream

/-- The stream of a text of which nothing has been read. -/
def ofCursor (cursor : Cursor) : TokenStream := ⟨cursor, #[], [], none, [], true⟩

/-- True inside brackets. -/
def inFlow (stream : TokenStream) : Bool := !stream.outer.isEmpty

/-- The fewest columns of what stands inside the innermost block. -/
def least (stream : TokenStream) : Nat :=
  match stream.margins with
  | [] => 0
  | margin :: _ => margin + 1

/-- Adds a token. -/
def push (token : Token) (stream : TokenStream) : TokenStream :=
  { stream with tokens := stream.tokens.push token }

/-- Moves to another place in the text. -/
def moveTo (cursor : Cursor) (stream : TokenStream) : TokenStream := { stream with cursor := cursor }

/-- Says whether a key may begin at the next token. -/
def allowKey (allowed : Bool) (stream : TokenStream) : TokenStream :=
  { stream with keyAllowed := allowed }

/-- Adds the token of a mark of so many characters. -/
def pushMark (token : Token) (length : Nat) (stream : TokenStream) : TokenStream :=
  (stream.moveTo (stream.cursor.skip length)).push token

/-- Gives up what may have been a key; it is an error if it had to be one. -/
def dropKey (stream : TokenStream) : Except Malformation TokenStream :=
  if stream.possible.any PossibleKey.required then .error .colonMissing
  else .ok { stream with possible := none }

/-- Remembers that a key may begin here. -/
def saveKey (stream : TokenStream) : Except Malformation TokenStream := do
  if !stream.keyAllowed then return stream
  let dropped ← stream.dropKey
  let place := stream.cursor.place
  let required := !stream.inFlow && stream.margins.head? == some place.column
  pure { dropped with possible := some ⟨stream.tokens.size, required, place⟩ }

/-- True if a colon at a place comes too late for a key. -/
def isStale (place : Place) (key : PossibleKey) : Bool :=
  key.place.line < place.line || key.place.index + longestKey < place.index

/-- Gives up every key for which a colon would come too late. -/
def forgetStale (stream : TokenStream) : Except Malformation TokenStream :=
  let stale := isStale stream.cursor.place
  let keys := stream.possible :: stream.outer
  if keys.any fun key => key.any fun key => key.required && stale key then .error .colonMissing
  else
    let fresh (key : Option PossibleKey) := key.filter fun key => !stale key
    .ok { stream with possible := fresh stream.possible, outer := stream.outer.map fresh }

/-- Begins a block at a column, if one begins there: its token goes before the token
with a number. -/
def openBlock (column number : Nat) (token : Token) (stream : TokenStream) : TokenStream :=
  if stream.inFlow || column < stream.least then stream
  else { stream with
    margins := column :: stream.margins
    tokens := stream.tokens.insertIdxIfInBounds number token }

/-- Ends the blocks whose margins a test meets. -/
def closeBlocks (test : Nat → Bool) (stream : TokenStream) : TokenStream :=
  if stream.inFlow then stream
  else
    let ended := stream.margins.takeWhile test
    { stream with
      margins := stream.margins.dropWhile test
      tokens := stream.tokens ++ ended.map fun _ => Token.blockEnd }

/-- Ends all blocks. -/
def closeAll (stream : TokenStream) : TokenStream := stream.closeBlocks fun _ => true

/-- Passes over blanks, comments and empty lines, and tells whether a key may begin
behind them. A tab is no blank where a key may begin. Outside of brackets a key may
begin on a new line. -/
def skipEmpty (inFlow keyAllowed inComment : Bool) (place : Place) : List Char → Bool × Cursor
  | [] => (keyAllowed, ⟨place, []⟩)
  | character :: rest =>
    let next := place.after character
    if isBreak character then skipEmpty inFlow (keyAllowed || !inFlow) false next rest
    else if inComment || character == '#' then skipEmpty inFlow keyAllowed true next rest
    else if character == ' ' || character == '\t' && (inFlow || !keyAllowed) then
      skipEmpty inFlow keyAllowed false next rest
    else (keyAllowed, ⟨place, character :: rest⟩)

/-- Moves to the beginning of the next token. -/
def toToken (stream : TokenStream) : TokenStream :=
  let (allowed, cursor) :=
    skipEmpty stream.inFlow stream.keyAllowed false stream.cursor.place stream.cursor.rest
  (stream.allowKey allowed).moveTo cursor

/-- Reads a directive. -/
def readDirectiveLine (stream : TokenStream) : Except Malformation TokenStream := do
  let stream ← stream.closeAll.dropKey
  let (token, cursor) ← readDirective (stream.cursor.skip 1)
  pure (((stream.allowKey false).moveTo cursor).push token)

/-- Reads a mark between documents. -/
def readDocumentMark (token : Token) (stream : TokenStream) :
    Except Malformation TokenStream := do
  let stream ← stream.closeAll.dropKey
  pure ((stream.allowKey false).pushMark token 3)

/-- Reads an opening bracket, which may begin a key. -/
def readOpening (token : Token) (stream : TokenStream) : Except Malformation TokenStream := do
  let stream ← stream.saveKey
  pure (({ stream with
    outer := stream.possible :: stream.outer
    possible := none }.allowKey true).pushMark token 1)

/-- Reads a closing bracket. -/
def readClosing (token : Token) (stream : TokenStream) : Except Malformation TokenStream := do
  let stream ← stream.dropKey
  let stream := match stream.outer with
    | [] => stream
    | key :: outer => { stream with possible := key, outer := outer }
  pure ((stream.allowKey false).pushMark token 1)

/-- Reads a comma. -/
def readComma (stream : TokenStream) : Except Malformation TokenStream := do
  let stream ← stream.dropKey
  pure ((stream.allowKey true).pushMark .comma 1)

/-- Reads the mark of an item or of a key that does not stand on one line. -/
def readBlockMark (token opening : Token) (refused : Malformation) (allowsKey : Bool)
    (stream : TokenStream) : Except Malformation TokenStream := do
  if !stream.inFlow && !stream.keyAllowed then throw refused
  let opened := stream.openBlock stream.cursor.place.column stream.tokens.size opening
  let stream ← opened.dropKey
  pure ((stream.allowKey allowsKey).pushMark token 1)

/-- Reads the colon behind a key. If something may have been a key it was one, and
its token goes before it; a mapping may begin there. -/
def readColon (stream : TokenStream) : Except Malformation TokenStream :=
  match stream.possible with
  | some key =>
    let marked := { stream with
      tokens := stream.tokens.insertIdxIfInBounds key.number .key
      possible := none }
    .ok (((marked.openBlock key.place.column key.number .blockMapping).allowKey false).pushMark
      .value 1)
  | none =>
    if !stream.inFlow && !stream.keyAllowed then .error .valueNotAllowed
    else
      let opened := stream.openBlock stream.cursor.place.column stream.tokens.size .blockMapping
      .ok ((opened.allowKey (!stream.inFlow)).pushMark .value 1)

/-- Reads an anchor or an alias, which may begin a key. -/
def readAnchor (isAlias : Bool) (stream : TokenStream) : Except Malformation TokenStream := do
  let stream ← stream.saveKey
  let (name, cursor) ← readName isAlias (stream.cursor.skip 1)
  pure (((stream.allowKey false).moveTo cursor).push
    (if isAlias then .aliased name else .anchor name))

/-- Reads a tag, which may begin a key. -/
def readTagMark (stream : TokenStream) : Except Malformation TokenStream := do
  let stream ← stream.saveKey
  let (token, cursor) ← readTag stream.inFlow stream.cursor
  pure (((stream.allowKey false).moveTo cursor).push token)

/-- Reads a block of lines. A key may begin behind it. -/
def readBlockScalar (folds : Bool) (stream : TokenStream) : Except Malformation TokenStream := do
  let stream ← stream.dropKey
  let scalar ← readBlock folds stream.least (stream.cursor.skip 1)
  pure (((stream.allowKey true).moveTo scalar.cursor).push (.scalar scalar.text false))

/-- Reads a quoted scalar, which may be a key. -/
def readQuotedScalar (double : Bool) (stream : TokenStream) :
    Except Malformation TokenStream := do
  let stream ← stream.saveKey
  let cursor := stream.cursor.skip 1
  let scalar ← readQuoted double .plain cursor.place [] .empty cursor.rest
  pure (((stream.allowKey false).moveTo scalar.cursor).push (.scalar scalar.text false))

/-- Reads a plain scalar, which may be a key. One that ends on a later line than its
last word lets a key begin behind it. -/
def readPlainScalar (stream : TokenStream) : Except Malformation TokenStream := do
  let stream ← stream.saveKey
  let cursor := stream.cursor
  let scalar ← readPlain stream.inFlow stream.least cursor.place [] .empty cursor.rest
  pure (((stream.allowKey scalar.newLine).moveTo scalar.cursor).push (.scalar scalar.text true))

/-- Ends the stream on a line of its own. -/
def readEnd (stream : TokenStream) : Except Malformation TokenStream := do
  let place := stream.cursor.place
  let ended : Place := if place.column = 0 then place else ⟨place.line + 1, 0, place.index⟩
  let stream ← (stream.moveTo ⟨ended, []⟩).closeAll.dropKey
  pure ((stream.allowKey false).push .streamEnd)

/-- True for a mark that no plain scalar begins with. -/
def isIndicator (character : Char) : Bool :=
  ['-', '?', ':', ',', '[', ']', '\x7b', '\x7d', '#', '&', '*', '!', '|', '>', '\x27', '"', '%',
    '@', '\x60'].contains character

/-- True if a plain scalar begins with a character before a text. -/
def beginsPlain (inFlow : Bool) (character : Char) (rest : List Char) : Bool :=
  !(isBlank character || isIndicator character)
    || character == '-' && !rest.head?.any isBlank
    || !inFlow && (character == '?' || character == ':') && !ends rest

/-- Reads the token that begins with a character before a text. -/
def readToken (character : Char) (rest : List Char) (stream : TokenStream) :
    Except Malformation TokenStream :=
  let margin := stream.cursor.place.column == 0
  let marks := stream.inFlow || ends rest
  if margin && character == '%' then stream.readDirectiveLine
  else if margin && beginsMark '-' (character :: rest) then stream.readDocumentMark .documentStart
  else if margin && beginsMark '.' (character :: rest) then stream.readDocumentMark .documentEnd
  else if character = '[' then stream.readOpening .listOpen
  else if character = '\x7b' then stream.readOpening .mappingOpen
  else if character = ']' then stream.readClosing .listClose
  else if character = '\x7d' then stream.readClosing .mappingClose
  else if character = ',' then stream.readComma
  else if character == '-' && ends rest then
    stream.readBlockMark .dash .blockList .entryNotAllowed true
  else if character == '?' && marks then
    stream.readBlockMark .key .blockMapping .keyNotAllowed (!stream.inFlow)
  else if character == ':' && marks then stream.readColon
  else if character = '*' then stream.readAnchor true
  else if character = '&' then stream.readAnchor false
  else if character = '!' then stream.readTagMark
  else if character == '|' && !stream.inFlow then stream.readBlockScalar false
  else if character == '>' && !stream.inFlow then stream.readBlockScalar true
  else if character = '\x27' then stream.readQuotedScalar false
  else if character = '"' then stream.readQuotedScalar true
  else if beginsPlain stream.inFlow character rest then stream.readPlainScalar
  else .error .noToken

/-- Reads the next token, and ends the blocks that it ends. -/
def readNext (stream : TokenStream) : Except Malformation TokenStream := do
  let stream ← stream.toToken.forgetStale
  let column := stream.cursor.place.column
  let stream := stream.closeBlocks fun margin => column < margin
  let stream ← match stream.cursor.rest with
    | [] => stream.readEnd
    | character :: rest => stream.readToken character rest
  stream.forgetStale

/-- How many tokens no colon can change any more. -/
def settled (stream : TokenStream) : Nat :=
  (stream.possible :: stream.outer).foldl (fun count key =>
    match key with
    | some key => min count key.number
    | none => count) stream.tokens.size

/-- Reads tokens to the end of the stream or to the first fault. The fuel bounds the
characters left: every token but the last consumes one. -/
def finish : (fuel : Nat) → TokenStream → List Token
  | 0, stream => stream.tokens.toList
  | fuel + 1, stream =>
    match stream.readNext with
    | .error cause => stream.tokens.toList.take stream.settled ++ [.fault cause]
    | .ok next =>
      if next.tokens.back? = some .streamEnd then next.tokens.toList else finish fuel next

end TokenStream

/-- The tokens of a text. -/
def tokensOf (text : String) : List Token :=
  match Cursor.ofText text with
  | .error cause => [.fault cause]
  | .ok cursor => (TokenStream.ofCursor cursor).finish (cursor.rest.length + 1)

end BucketMount.Yaml
