import BucketMount.Dictionary
import BucketMount.Format.Schema

/-!
# Formats of fields

A format ties together four views of one type of value: how it is decoded from a
tree, how it is encoded, which schema it has, and how it is shown to a person.
Decoding walks the tree in order and stops at the first refusal.

A tree may come straight from a text, or from values already collected under
sorted and unrepeated names. The two differ in nothing but the wording of two
refusals: surplus items of a list read by position, and a variant that is no
string.
-/

namespace BucketMount

/-- Where a tree comes from: straight from a text, or collected before. -/
inductive Source where
  | text
  | collected
  deriving DecidableEq, Repr

/-- The views of one type of value. -/
structure Format (α : Type) where
  decode : Source → Json → Except Json.Refusal α
  encode : α → Json
  schema : Schema
  shown : α → String

namespace Format

variable {α : Type}

/-- Texts. -/
def string : Format String where
  decode _
    | .string value => .ok value
    | other => .error (other.refusal "a string")
  encode := .string
  schema := .string
  shown := Text.quoted

/-- Flags. -/
def boolean : Format Bool where
  decode _
    | .boolean value => .ok value
    | other => .error (other.refusal "a boolean")
  encode := .boolean
  schema := .boolean
  shown value := if value then "true" else "false"

/-- Whole numbers between two bounds, described by a word. -/
def whole (low high : Int) (expected : String) : Format Int where
  decode _
    | .number (.whole value) =>
      if low ≤ value ∧ value ≤ high then .ok value
      else .error (.wrongValue (.number (.whole value)) expected)
    | other => .error (other.refusal expected)
  encode value := .number (.whole value)
  schema := .unstructured
  shown value := toString value

/-- Whole numbers of 64 bits with a sign. -/
def integer : Format Int := whole (-9223372036854775808) 9223372036854775807 "i64"

/-- A text that is always the same. -/
def constant (text : String) : Format Unit where
  decode _
    | .string value =>
      if value = text then .ok () else .error (.wrongValue (.string value) text)
    | other => .error (other.refusal "a string")
  encode _ := .string text
  schema := .string
  shown _ := Text.quoted text

/-- Points in time. -/
def timestamp : Format Timestamp where
  decode _
    | .string value => (Timestamp.ofText value).mapError .time
    | other => .error (other.refusal "an RFC 3339 formatted date and time string")
  encode value := .string value.text
  schema := .string
  shown := Timestamp.text

/-- Bytes in base64; null stands for none. -/
def bytes : Format (List UInt8) where
  decode _
    | .string value => (Text.Base64.decode value.toUTF8.toList).mapError .base64
    | .null => .ok []
    | other => .error (other.refusal "a base64-encoded string")
  encode value := .string (String.ofList ((Text.Base64.encode value).map fun byte => Char.ofNat byte.toNat))
  schema := .string
  shown value := toString value

/-- A value that may be null. -/
def optional (inner : Format α) : Format (Option α) where
  decode source
    | .null => .ok none
    | other => (inner.decode source other).map some
  encode
    | some value => inner.encode value
    | none => .null
  schema := .nullable inner.schema
  shown
    | some value => s!"Some({inner.shown value})"
    | none => "None"

/-- A value for which null stands for a default. -/
def nullAs (absent : α) (inner : Format α) : Format α where
  decode source
    | .null => .ok absent
    | other => inner.decode source other
  encode := inner.encode
  schema := .nullable inner.schema
  shown := inner.shown

/-- Decodes items in order. -/
def decodeItems (inner : Format α) (source : Source) : List Json → Except Json.Refusal (List α)
  | [] => .ok []
  | item :: rest => do
    let value ← inner.decode source item
    let values ← decodeItems inner source rest
    pure (value :: values)

/-- Lists. -/
def list (inner : Format α) : Format (List α) where
  decode source
    | .array items tail => do
      let values ← decodeItems inner source items
      Json.close tail
      pure values
    | other => .error (other.refusal "a sequence")
  encode values := .array (values.map inner.encode) none
  schema := .list inner.schema
  shown values := "[" ++ ", ".intercalate (values.map inner.shown) ++ "]"

/-- Decodes the entries of a dictionary in order. -/
def decodeEntries (inner : Format α) (source : Source) :
    List (String × Json) → Except Json.Refusal (List (String × α))
  | [] => .ok []
  | (key, item) :: rest => do
    let value ← inner.decode source item
    let values ← decodeEntries inner source rest
    pure ((key, value) :: values)

/-- Dictionaries; the last of several entries with one key wins. -/
def dictionary (inner : Format α) : Format (Dictionary α) where
  decode source
    | .object members tail => do
      let entries ← decodeEntries inner source members
      Json.close tail
      pure (Dictionary.ofList entries)
    | other => .error (other.refusal "a map")
  encode values := .object (values.entries.map fun entry => (entry.1, inner.encode entry.2)) none
  schema := .dictionary inner.schema
  shown values :=
    let entries := values.entries.map fun entry =>
      Text.quoted entry.1 ++ ": " ++ inner.shown entry.2
    "\x7b" ++ ", ".intercalate entries ++ "\x7d"

/-- The named variant. -/
def variantNamed (variants : List (String × α)) (name : String) : Except Json.Refusal α :=
  match variants.find? fun variant => variant.1 == name with
  | some variant => .ok variant.2
  | none => .error (.unknownVariant name (variants.map Prod.fst))

/-- A variant carries nothing but null. -/
def decodeUnit : Json → Except Json.Refusal Unit
  | .null => .ok ()
  | other => .error (other.refusal "unit")

/-- What may stand behind the single member of a variant written as an object. -/
def closeVariant : List (String × Json) → Option Json.Fault → Except Json.Refusal Unit
  | [], none => .ok ()
  | [], some cause =>
    .error (.malformed (if cause.wanted = .objectEnds then .objectEnds else .valueExpected))
  | _ :: _, _ => .error (.malformed .valueExpected)

/-- Decodes a variant: its name, or an object whose only member has its name and
holds null. -/
def decodeVariant (variants : List (String × α)) : Source → Json → Except Json.Refusal α
  | _, .string name => variantNamed variants name
  | .text, .object members tail =>
    match members with
    | [] =>
      match tail with
      | some cause => .error (.malformed cause.asVariant)
      | none => .error (.malformed .valueExpected)
    | (name, value) :: rest => do
      let variant ← variantNamed variants name
      decodeUnit value
      closeVariant rest tail
      pure variant
  | .collected, .object [(name, value)] _ => do
    let variant ← variantNamed variants name
    decodeUnit value
    pure variant
  | .collected, .object _ _ => .error (.wrongValue .object "map with a single key")
  | .text, .fault cause => .error (.malformed cause.asVariant)
  | .text, _ => .error (.malformed .valueExpected)
  | .collected, other => .error (other.refusal "string or map")

/-- A choice between named variants. -/
def choice (variants : List (String × α)) (name : α → String) : Format α where
  decode := decodeVariant variants
  encode value := .string (name value)
  schema := .choice (variants.map Prod.fst)
  shown := name

end Format

end BucketMount
