import BucketMount.Yaml.TokenStream

/-!
# Documents as their nodes

A document is a tree of scalars, lists and mappings, in which an alias may stand
for a node with an anchor. As with any text, a document that is not well formed
still has a tree: a fault stands in place of a node, or behind the last entry of
a list or a mapping, where the text stops being YAML.

Anchors are numbered as they come. A number is the count of different names seen
before, so a name that is given again takes a number that a later name takes as
well; the node that carries a number last is the one meant.
-/

namespace BucketMount.Yaml

/-- What a tag says of its node. A node with a tag of one's own has a name, the
four common types are known, and of any other tag only its presence counts. -/
inductive Tag where
  | named (name : String)
  | boolean
  | integer
  | float
  | null
  | other
  deriving DecidableEq, Repr

/-- The meaning of the handle of two marks. -/
def commonMeaning : String := "tag:yaml.org,2002:"

namespace Tag

/-- The tag in so many bytes. A tag of one's own that is no text is as good as none. -/
def ofBytes (bytes : List UInt8) : Option Tag :=
  match bytes with
  | 33 :: name => (String.fromUTF8? ⟨name.toArray⟩).map .named
  | _ =>
    let known := [("bool", boolean), ("int", integer), ("float", float), ("null", null)]
    some ((known.find? fun entry => (commonMeaning ++ entry.1).toUTF8.toList == bytes).elim other
      Prod.snd)

end Tag

/-- The properties of a node. -/
structure Properties where
  anchor : Option Nat
  tag : Option Tag
  deriving DecidableEq, Repr

/-- A node. The tail of a list or a mapping is the fault behind its last entry. -/
inductive Node where
  | scalar (properties : Properties) (text : String) (plain : Bool)
  | list (properties : Properties) (items : List Node) (tail : Option Malformation)
  | mapping (properties : Properties) (entries : List (Node × Node)) (tail : Option Malformation)
  | aliased (anchor : Nat)
  | fault (cause : Malformation)

/-- A document: its node, and the fault behind it. -/
structure Document where
  root : Node
  tail : Option Malformation

namespace Node

/-- The node where nothing was written. -/
def empty : Node := .scalar ⟨none, none⟩ "" true

mutual

/-- How many steps it takes to tell a node: one for a scalar or an alias, two for
the ends of a list or a mapping. -/
def steps : Node → Nat
  | .scalar _ _ _ | .aliased _ => 1
  | .list _ items tail => stepsOfItems items + (if tail.isSome then 1 else 2)
  | .mapping _ entries tail => stepsOfEntries entries + (if tail.isSome then 1 else 2)
  | .fault _ => 0

/-- How many steps it takes to tell the items of a list. -/
def stepsOfItems : List Node → Nat
  | [] => 0
  | item :: rest => steps item + stepsOfItems rest

/-- How many steps it takes to tell the entries of a mapping. -/
def stepsOfEntries : List (Node × Node) → Nat
  | [] => 0
  | (key, value) :: rest => steps key + steps value + stepsOfEntries rest

end

mutual

/-- The last node that carries an anchor. -/
def anchored? (anchor : Nat) : Node → Option Node
  | .scalar properties text plain =>
    if properties.anchor = some anchor then some (.scalar properties text plain) else none
  | .list properties items tail =>
    (anchoredInItems? anchor items).or
      (if properties.anchor = some anchor then some (.list properties items tail) else none)
  | .mapping properties entries tail =>
    (anchoredInEntries? anchor entries).or
      (if properties.anchor = some anchor then some (.mapping properties entries tail) else none)
  | .aliased _ | .fault _ => none

/-- The last node among the items of a list that carries an anchor. -/
def anchoredInItems? (anchor : Nat) : List Node → Option Node
  | [] => none
  | item :: rest => (anchoredInItems? anchor rest).or (anchored? anchor item)

/-- The last node among the entries of a mapping that carries an anchor. -/
def anchoredInEntries? (anchor : Nat) : List (Node × Node) → Option Node
  | [] => none
  | (key, value) :: rest =>
    (anchoredInEntries? anchor rest).or ((anchored? anchor value).or (anchored? anchor key))

end

end Node

/-- What is left to read: the tokens, the meanings of the handles, and the anchors of
the document with their numbers. -/
structure NodeReader where
  tokens : List Token
  handles : List (String × List UInt8)
  anchors : List (String × Nat)

namespace NodeReader

/-- The next token. -/
def peek (reader : NodeReader) : Token := reader.tokens.headD .streamEnd

/-- Moves behind the next token. -/
def skip (reader : NodeReader) : NodeReader := { reader with tokens := reader.tokens.tail }

/-- Nothing but a fault is left to read. -/
def fail (cause : Malformation) (reader : NodeReader) : NodeReader :=
  { reader with tokens := [.fault cause] }

/-- The meanings that handles have without a directive. -/
def usualHandles : List (String × List UInt8) :=
  [("!", [33]), ("!!", commonMeaning.toUTF8.toList)]

/-- The bytes of a tag. -/
def tagBytes (reader : NodeReader) (handle : String) (ending : List UInt8) :
    Except Malformation (List UInt8) :=
  if handle = "" then .ok ending
  else match (reader.handles ++ usualHandles).lookup handle with
    | some meaning => .ok (meaning ++ ending)
    | none => .error .handleUnknown

/-- Reads an anchor and a tag, in either order. -/
def readProperties (reader : NodeReader) :
    Option String × Option (String × List UInt8) × NodeReader :=
  match reader.peek with
  | .anchor name =>
    match reader.skip.peek with
    | .tag handle ending => (some name, some (handle, ending), reader.skip.skip)
    | _ => (some name, none, reader.skip)
  | .tag handle ending =>
    match reader.skip.peek with
    | .anchor name => (some name, some (handle, ending), reader.skip.skip)
    | _ => (none, some (handle, ending), reader.skip)
  | _ => (none, none, reader)

/-- Gives an anchor a number. -/
def declare (anchor : Option String) (reader : NodeReader) : Option Nat × NodeReader :=
  match anchor with
  | none => (none, reader)
  | some name =>
    let number := reader.anchors.length
    let others := reader.anchors.filter fun entry => entry.1 != name
    (some number, { reader with anchors := (name, number) :: others })

/-- True for a token before which an item of a list may be missing: of a list with a
margin of its own, or of one at the margin of the mapping around it. -/
def endsItem (loose : Bool) : Token → Bool
  | .dash | .blockEnd => true
  | .key | .value => loose
  | _ => false

/-- True for a token before which a key or a value of a block may be missing. -/
def endsEntry : Token → Bool
  | .key | .value | .blockEnd => true
  | _ => false

/-- True for a token before which a key or a value in brackets may be missing. -/
def endsFlow (close : Token) (token : Token) : Bool := token == .comma || token == close

mutual

/-- Reads a node: inside a block or inside brackets, and where a list may stand at the
margin of the mapping around it or not. -/
def readNode : (fuel : Nat) → (block loose : Bool) → NodeReader → Node × NodeReader
  | 0, block, _, reader => (.fault (.nodeExpected block), reader.fail (.nodeExpected block))
  | fuel + 1, block, loose, reader =>
    match reader.peek with
    | .fault cause => (.fault cause, reader)
    | .aliased name =>
      match reader.anchors.lookup name with
      | some anchor => (.aliased anchor, reader.skip)
      | none => (.fault .anchorUnknown, reader.fail .anchorUnknown)
    | _ =>
      let (name, written, reader) := reader.readProperties
      match reader.peek, written.mapM fun tag => reader.tagBytes tag.1 tag.2 with
      | .fault cause, _ => (.fault cause, reader)
      | _, .error cause => (.fault cause, reader.fail cause)
      | token, .ok bytes =>
        let (anchor, next) := reader.declare name
        let properties : Properties := ⟨anchor, bytes.bind Tag.ofBytes⟩
        match block, token with
        | _, .scalar text plain =>
          let tag := if bytes = some [33] then none else properties.tag
          (.scalar { properties with tag := tag } text plain, next.skip)
        | _, .listOpen =>
          let (items, tail, next) := readFlowItems fuel true next.skip
          (.list properties items tail, next)
        | _, .mappingOpen =>
          let (entries, tail, next) := readFlowEntries fuel true next.skip
          (.mapping properties entries tail, next)
        | true, .blockList =>
          let (items, tail, next) := readItems fuel false next.skip
          (.list properties items tail, next)
        | true, .blockMapping =>
          let (entries, tail, next) := readEntries fuel next.skip
          (.mapping properties entries tail, next)
        | _, token =>
          if loose && token == .dash then
            let (items, tail, next) := readItems fuel true next
            (.list properties items tail, next)
          else if name.isSome || written.isSome then (.scalar properties "" true, next)
          else (.fault (.nodeExpected block), reader.fail (.nodeExpected block))

/-- Reads the items of a block. A loose list, which stands at the margin of the mapping
around it, has no end of its own. -/
def readItems : (fuel : Nat) → (loose : Bool) → NodeReader →
    List Node × Option Malformation × NodeReader
  | 0, _, reader => ([], some .dashExpected, reader.fail .dashExpected)
  | fuel + 1, loose, reader =>
    match reader.peek, loose with
    | .fault cause, _ => ([], some cause, reader)
    | .dash, _ =>
      let (item, reader) :=
        if endsItem loose reader.skip.peek then (Node.empty, reader.skip)
        else readNode fuel true false reader.skip
      let (items, tail, reader) := readItems fuel loose reader
      (item :: items, tail, reader)
    | .blockEnd, false => ([], none, reader.skip)
    | _, true => ([], none, reader)
    | _, false => ([], some .dashExpected, reader.fail .dashExpected)

/-- Reads the entries of a block. -/
def readEntries : (fuel : Nat) → NodeReader →
    List (Node × Node) × Option Malformation × NodeReader
  | 0, reader => ([], some .keyExpected, reader.fail .keyExpected)
  | fuel + 1, reader =>
    match reader.peek with
    | .fault cause => ([], some cause, reader)
    | .blockEnd => ([], none, reader.skip)
    | .key =>
      let (key, reader) :=
        if endsEntry reader.skip.peek then (Node.empty, reader.skip)
        else readNode fuel true true reader.skip
      let (value, reader) := readValue fuel reader
      let (entries, tail, reader) := readEntries fuel reader
      ((key, value) :: entries, tail, reader)
    | _ => ([], some .keyExpected, reader.fail .keyExpected)

/-- Reads the value behind a key of a block, if there is one. -/
def readValue : (fuel : Nat) → NodeReader → Node × NodeReader
  | 0, reader => (.fault .keyExpected, reader.fail .keyExpected)
  | fuel + 1, reader =>
    match reader.peek with
    | .fault cause => (.fault cause, reader)
    | .value =>
      if endsEntry reader.skip.peek then (.empty, reader.skip)
      else readNode fuel true true reader.skip
    | _ => (.empty, reader)

/-- Reads the items in brackets up to the closing one. -/
def readFlowItems : (fuel : Nat) → (first : Bool) → NodeReader →
    List Node × Option Malformation × NodeReader
  | 0, _, reader => ([], some .listSeparatorExpected, reader.fail .listSeparatorExpected)
  | fuel + 1, first, reader =>
    match reader.peek with
    | .fault cause => ([], some cause, reader)
    | .listClose => ([], none, reader.skip)
    | token =>
      if !first && token != .comma then
        ([], some .listSeparatorExpected, reader.fail .listSeparatorExpected)
      else
        let reader := if first then reader else reader.skip
        match reader.peek with
        | .fault cause => ([], some cause, reader)
        | .listClose => ([], none, reader.skip)
        | next =>
          let (item, reader) :=
            if next == .key then readPair fuel reader.skip else readNode fuel false false reader
          let (items, tail, reader) := readFlowItems fuel false reader
          (item :: items, tail, reader)

/-- Reads the one entry of a mapping that stands without brackets among the items of
a list. Where its key is missing, what stands in its place is passed over. -/
def readPair : (fuel : Nat) → NodeReader → Node × NodeReader
  | 0, reader => (.fault .listSeparatorExpected, reader.fail .listSeparatorExpected)
  | fuel + 1, reader =>
    let (key, reader) :=
      if reader.peek == .value || endsFlow .listClose reader.peek then (Node.empty, reader.skip)
      else readNode fuel false false reader
    let (value, reader) := readFlowValue fuel .listClose reader
    (.mapping ⟨none, none⟩ [(key, value)] none, reader)

/-- Reads the value behind a key in brackets, if there is one. -/
def readFlowValue : (fuel : Nat) → (close : Token) → NodeReader → Node × NodeReader
  | 0, _, reader => (.fault .mappingSeparatorExpected, reader.fail .mappingSeparatorExpected)
  | fuel + 1, close, reader =>
    match reader.peek with
    | .fault cause => (.fault cause, reader)
    | .value =>
      if endsFlow close reader.skip.peek then (.empty, reader.skip)
      else readNode fuel false false reader.skip
    | _ => (.empty, reader)

/-- Reads the entries in brackets up to the closing one. What has no mark of a key is
a key without a value. -/
def readFlowEntries : (fuel : Nat) → (first : Bool) → NodeReader →
    List (Node × Node) × Option Malformation × NodeReader
  | 0, _, reader => ([], some .mappingSeparatorExpected, reader.fail .mappingSeparatorExpected)
  | fuel + 1, first, reader =>
    match reader.peek with
    | .fault cause => ([], some cause, reader)
    | .mappingClose => ([], none, reader.skip)
    | token =>
      if !first && token != .comma then
        ([], some .mappingSeparatorExpected, reader.fail .mappingSeparatorExpected)
      else
        let reader := if first then reader else reader.skip
        match reader.peek with
        | .fault cause => ([], some cause, reader)
        | .mappingClose => ([], none, reader.skip)
        | next =>
          let (key, value, reader) :=
            if next == .key then
              let reader := reader.skip
              let (key, reader) :=
                if reader.peek == .value || endsFlow .mappingClose reader.peek then
                  (Node.empty, reader)
                else readNode fuel false false reader
              let (value, reader) := readFlowValue fuel .mappingClose reader
              (key, value, reader)
            else
              let (key, reader) := readNode fuel false false reader
              let value := match reader.peek with
                | .fault cause => Node.fault cause
                | _ => .empty
              (key, value, reader)
          let (entries, tail, reader) := readFlowEntries fuel false reader
          ((key, value) :: entries, tail, reader)

end

/-- Reads the directives before a document. -/
def readDirectives (versioned : Bool) (handles : List (String × List UInt8)) :
    List Token → Except Malformation (List (String × List UInt8) × List Token)
  | .version major minor :: rest =>
    if versioned then .error .versionRepeated
    else if major = 1 ∧ (minor = 1 ∨ minor = 2) then readDirectives true handles rest
    else .error .versionUnknown
  | .handle name meaning :: rest =>
    if (handles.lookup name).isSome then .error .handleRepeated
    else readDirectives versioned (handles ++ [(name, meaning)]) rest
  | .fault cause :: _ => .error cause
  | .documentStart :: rest => .ok (handles, rest)
  | _ => .error .documentStartExpected

/-- True for a token before which a document may be empty. -/
def endsDocument : Token → Bool
  | .version _ _ | .handle _ _ | .documentStart | .documentEnd | .streamEnd => true
  | _ => false

/-- True for a token that begins a document with directives or a mark. -/
def beginsDocument : Token → Bool
  | .version _ _ | .handle _ _ | .documentStart => true
  | _ => false

/-- Enough fuel for tokens: on the way to a token at most four calls are nested. -/
def enoughFuel (tokens : List Token) : Nat := 4 * tokens.length + 4

/-- Reads the node of a document, and what stands behind it up to its end. -/
def readRoot (reader : NodeReader) : Document × NodeReader :=
  let (root, reader) := readNode (enoughFuel reader.tokens) true false reader
  match reader.peek with
  | .fault cause => (⟨root, some cause⟩, reader)
  | .documentEnd => (⟨root, none⟩, reader.skip)
  | _ => (⟨root, none⟩, reader)

/-- Reads a document behind its mark. -/
def readMarked (reader : NodeReader) : Document × NodeReader :=
  if endsDocument reader.peek then
    (⟨.empty, none⟩, if reader.peek == .documentEnd then reader.skip else reader)
  else readRoot reader

/-- Reads documents: only the first may begin without a mark, and marks of an end may
stand before any other. -/
def readDocuments : (fuel : Nat) → (first : Bool) → List Token → List Document
  | 0, _, _ => []
  | fuel + 1, first, tokens =>
    let tokens := if first then tokens else tokens.dropWhile (· == .documentEnd)
    match tokens.headD .streamEnd with
    | .fault cause => [⟨.fault cause, some cause⟩]
    | .streamEnd => if first then [⟨.empty, none⟩] else []
    | token =>
      if first && !beginsDocument token then
        let (document, reader) := readRoot ⟨tokens, [], []⟩
        document :: readDocuments fuel false reader.tokens
      else match readDirectives false [] tokens with
        | .error cause => [⟨.fault cause, some cause⟩]
        | .ok (handles, rest) =>
          let (document, reader) := readMarked ⟨rest, handles, []⟩
          document :: readDocuments fuel false reader.tokens

end NodeReader

/-- The documents of a text, at least one. -/
def documentsOf (text : String) : List Document :=
  let tokens := tokensOf text
  NodeReader.readDocuments (tokens.length + 1) true tokens

end BucketMount.Yaml
