import BucketMount.Binary64
import BucketMount.Text.Base64
import BucketMount.Timestamp
import BucketMount.Text.Quoted

/-!
# JSON trees as a reader meets them

A tree holds the values of a document in their written order, repeated member
names included. A document that is not well formed still has a tree: where its
text stops being JSON there is a fault instead of a value, or behind the last
item of a list or the last member of an object. A decoder that walks the tree in
order therefore meets the same first fault as one that reads the text directly.

One place may be faulty for one reader and sound for another. A decoder that
wants the value checks more than one that passes over it, so a fault says what
each of them meets. Line and column numbers are not modelled.
-/

namespace BucketMount

namespace Json

/-- Whole numbers of 64 bits are exact; every other number is a binary one. -/
inductive Number where
  | whole (value : Int)
  | real (value : Binary64)
  deriving DecidableEq, Repr

/-- How a text can fail to be JSON. -/
inductive Malformation where
  | valueEnds
  | listEnds
  | objectEnds
  | stringEnds
  | colonExpected
  | listSeparatorExpected
  | objectSeparatorExpected
  | wordExpected
  | valueExpected
  | badEscape
  | badNumber
  | numberRange
  | unpairedSurrogate
  | surrogateEnds
  | controlCharacter
  | keyExpected
  | trailingComma
  | trailingCharacters
  | tooDeep
  deriving DecidableEq, Repr

/-- The wording of a malformation. -/
def Malformation.message : Malformation → String
  | .valueEnds => "EOF while parsing a value"
  | .listEnds => "EOF while parsing a list"
  | .objectEnds => "EOF while parsing an object"
  | .stringEnds => "EOF while parsing a string"
  | .colonExpected => "expected `:`"
  | .listSeparatorExpected => "expected `,` or `]`"
  | .objectSeparatorExpected => "expected `,` or `\x7d`"
  | .wordExpected => "expected ident"
  | .valueExpected => "expected value"
  | .badEscape => "invalid escape"
  | .badNumber => "invalid number"
  | .numberRange => "number out of range"
  | .unpairedSurrogate => "lone leading surrogate in hex escape"
  | .surrogateEnds => "unexpected end of hex escape"
  | .controlCharacter => "control character (\\u0000-\\u001F) found while parsing a string"
  | .keyExpected => "key must be a string"
  | .trailingComma => "trailing comma"
  | .trailingCharacters => "trailing characters"
  | .tooDeep => "recursion limit exceeded"

/-- What a decoder met in place of the value it wanted. -/
inductive Found where
  | null
  | boolean (value : Bool)
  | number (value : Number)
  | string (value : String)
  | list
  | object
  deriving DecidableEq, Repr

/-- The wording of a value met: scalars are shown, lists and objects only named. -/
def Found.message : Found → String
  | .null => "null"
  | .boolean value => s!"boolean `{value}`"
  | .number (.whole value) => s!"integer `{value}`"
  | .number (.real value) => s!"floating point `{value.text}`"
  | .string value => s!"string {Text.quoted value}"
  | .list => "sequence"
  | .object => "map"

/-- Why a tree could not be decoded. -/
inductive Refusal where
  | malformed (cause : Malformation)
  | wrongType (found : Found) (expected : String)
  | wrongValue (found : Found) (expected : String)
  | wrongLength (count : Nat) (expected : String)
  | unknownVariant (name : String) (known : List String)
  | missingField (key : String)
  | duplicateField (key : String)
  | base64 (cause : Text.Base64.Fault)
  | time (cause : Timestamp.Fault)
  deriving DecidableEq, Repr

/-- Names in back quotes, two joined by a word and more by commas. -/
def alternatives (names : List String) : String :=
  let marked := names.map fun name => s!"`{name}`"
  match marked with
  | [] => "there are no variants"
  | [one] => s!"expected {one}"
  | [one, two] => s!"expected {one} or {two}"
  | many => "expected one of " ++ ", ".intercalate many

/-- The wording of a refusal. -/
def Refusal.message : Refusal → String
  | .malformed cause => cause.message
  | .wrongType found expected => s!"invalid type: {found.message}, expected {expected}"
  | .wrongValue found expected => s!"invalid value: {found.message}, expected {expected}"
  | .wrongLength count expected => s!"invalid length {count}, expected {expected}"
  | .unknownVariant name known => s!"unknown variant `{name}`, {alternatives known}"
  | .missingField key => s!"missing field `{key}`"
  | .duplicateField key => s!"duplicate field `{key}`"
  | .base64 cause => cause.message
  | .time cause => cause.message

/-- A place where a text stops being JSON: what a decoder meets that wants the
value, what one meets that passes over it (nothing, if it can go on), and what
one meets that wants the name of a variant. -/
structure Fault where
  wanted : Malformation
  skipped : Option Malformation
  asVariant : Malformation
  deriving DecidableEq, Repr

/-- A fault that every decoder meets alike. -/
def Fault.always (cause : Malformation) : Fault := ⟨cause, some cause, cause⟩

end Json

/-- A document's tree, faults included. The tail of a list or an object is the
fault behind its last entry; there is none when its bracket closes it. -/
inductive Json where
  | null
  | boolean (value : Bool)
  | number (value : Json.Number)
  | string (value : String)
  | array (items : List Json) (tail : Option Json.Fault)
  | object (members : List (String × Json)) (tail : Option Json.Fault)
  | fault (cause : Json.Fault)
  deriving Repr, Inhabited

namespace Json

/-- The refusal of a decoder that wanted something else. -/
def refusal (expected : String) : Json → Refusal
  | .null => .wrongType .null expected
  | .boolean value => .wrongType (.boolean value) expected
  | .number value => .wrongType (.number value) expected
  | .string value => .wrongType (.string value) expected
  | .array _ _ => .wrongType .list expected
  | .object _ _ => .wrongType .object expected
  | .fault cause => .malformed cause.wanted

mutual

/-- The first malformation met by a decoder that passes over the value. -/
def skipFault : Json → Option Malformation
  | .fault cause => cause.skipped
  | .array items tail => (skipItems items).or (tail.bind Fault.skipped)
  | .object members tail => (skipMembers members).or (tail.bind Fault.skipped)
  | _ => none

/-- The first malformation met passing over the items of a list. -/
def skipItems : List Json → Option Malformation
  | [] => none
  | item :: rest => (skipFault item).or (skipItems rest)

/-- The first malformation met passing over the members of an object. -/
def skipMembers : List (String × Json) → Option Malformation
  | [] => none
  | (_, value) :: rest => (skipFault value).or (skipMembers rest)

end

/-- Passes over a value that nobody wants. -/
def skip (value : Json) : Except Refusal Unit :=
  match value.skipFault with
  | some cause => .error (.malformed cause)
  | none => .ok ()

/-- Nothing may follow the last entry. -/
def close : Option Fault → Except Refusal Unit
  | none => .ok ()
  | some cause => .error (.malformed cause.wanted)

/-- The value of a member, the last one if its name is repeated. -/
def member? (key : String) (members : List (String × Json)) : Option Json :=
  members.foldl (fun found entry => if entry.1 = key then some entry.2 else found) none

/-- The member of an object; none for any other value. -/
def get? (key : String) : Json → Option Json
  | .object members _ => member? key members
  | _ => none

/-- The value reached through a path of member names. -/
def at? : List String → Json → Option Json
  | [], value => some value
  | key :: path, value => (value.get? key).bind (at? path)

end Json

end BucketMount
