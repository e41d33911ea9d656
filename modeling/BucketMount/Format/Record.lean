import BucketMount.Format.Basic

/-!
# Formats of records

A record is described by its fields in declared order. Each field names its
member, the format of its value, the value it takes when the member is missing,
and when the member is left out of a document.

Members may come in any order, unknown ones are passed over, and a known one may
not be repeated. A record may also be written as a list of its fields' values in
declared order, from which values at the end may be missing. The core types of a
cluster are laxer about repetition, the last value winning, and have no list
form; the same description serves both.
-/

namespace BucketMount

/-- One field of a record: `absent` is its value when an object has no such
member and `absentItem` when a list has no such item; none means that it is
required. -/
structure Field (R : Type) where
  key : String
  description : Option String
  Value : Type
  format : Format Value
  absent : Option Value
  absentItem : Option Value
  omits : Value → Bool
  get : R → Value
  set : R → Value → R

/-- A record with its name, its description and its fields in declared order. -/
structure Record (R : Type) where
  name : String
  description : Option String
  initial : R
  fields : List (Field R)

/-- The name of a field as it is shown: the member's name in lower case with an
underscore before each word. -/
def shownKey (key : String) : String :=
  let step (state : List Char × Bool) (character : Char) : List Char × Bool :=
    let (before, lower) := state
    if character.isUpper then
      (if lower then character.toLower :: '_' :: before else character.toLower :: before, false)
    else (character :: before, true)
  String.ofList (key.toList.foldl step ([], false)).1.reverse

namespace Field

variable {R V : Type}

/-- A field that has to be there. -/
def required (key : String) (description : Option String) (format : Format V)
    (get : R → V) (set : R → V → R) : Field R :=
  ⟨key, description, V, format, none, none, fun _ => false, get, set⟩

/-- A field with a default that is always written. -/
def defaulted (key : String) (description : String) (format : Format V) (absent : V)
    (get : R → V) (set : R → V → R) : Field R :=
  ⟨key, description, V, format, some absent, some absent, fun _ => false, get, set⟩

/-- A field with a default that is left out while it is unset. -/
def elided (key : String) (description : Option String) (format : Format V) (absent : V)
    (omits : V → Bool) (get : R → V) (set : R → V → R) : Field R :=
  ⟨key, description, V, format, some absent, some absent, omits, get, set⟩

/-- A field that may be unset. -/
def optional (key : String) (description : Option String) (format : Format V)
    (get : R → Option V) (set : R → Option V → R) : Field R :=
  elided key description format.optional none Option.isNone get set

/-- The member of a field, unless it is left out. -/
def member? (field : Field R) (record : R) : Option (String × Json) :=
  let value := field.get record
  if field.omits value then none else some (field.key, field.format.encode value)

/-- The schema of a field: its own description, and its default if a document
that holds the default shows it. -/
def schema (field : Field R) : Schema :=
  let plain := match field.description with
    | some description => .described description field.format.schema
    | none => field.format.schema
  match field.absent with
  | some value => if field.omits value then plain else .defaulted (field.format.encode value) plain
  | none => plain

/-- A field as it is shown. -/
def shown (field : Field R) (record : R) : String :=
  shownKey field.key ++ ": " ++ field.format.shown (field.get record)

end Field

namespace Record

variable {R : Type}

/-- Decodes the members of an object in order; `repeats` allows a member to come
again. The names seen so far come first. -/
def decodeMembers (record : Record R) (repeats : Bool) (source : Source) :
    List String → R → List (String × Json) → Except Json.Refusal (List String × R)
  | seen, value, [] => .ok (seen, value)
  | seen, value, (key, item) :: rest =>
    match record.fields.find? fun field => field.key == key with
    | none => do
      item.skip
      decodeMembers record repeats source seen value rest
    | some field =>
      if !repeats && seen.contains key then .error (.duplicateField key)
      else do
        let part ← field.format.decode source item
        decodeMembers record repeats source (key :: seen) (field.set value part) rest

/-- The first required field that was not seen. -/
def missing? (record : Record R) (seen : List String) : Option String :=
  (record.fields.find? fun field => field.absent.isNone && !seen.contains field.key).map Field.key

/-- Decodes an object. -/
def decodeObject (record : Record R) (repeats : Bool) (source : Source)
    (members : List (String × Json)) (tail : Option Json.Fault) : Except Json.Refusal R := do
  let (seen, value) ← record.decodeMembers repeats source [] record.initial members
  Json.close tail
  match record.missing? seen with
  | some key => throw (.missingField key)
  | none => pure value

/-- What may stand behind the last item of a list read by position. -/
def closeItems (source : Source) (count : Nat) (items : List Json) (tail : Option Json.Fault) :
    Except Json.Refusal Unit :=
  match source, items, tail with
  | .collected, [], _ => .ok ()
  | .collected, _ :: _, _ => .error (.wrongLength count "fewer elements in array")
  | .text, [], none => .ok ()
  | .text, [], some cause =>
    .error (.malformed (if cause.wanted = .listEnds ∨ cause.wanted = .trailingComma
      then cause.wanted else .trailingCharacters))
  | .text, _ :: _, _ => .error (.malformed .trailingCharacters)

/-- The number of items in words. -/
def elements (count : Nat) : String := if count = 1 then "1 element" else s!"{count} elements"

/-- Decodes a list by position: the fields left, the items left and the number of
items read. -/
def decodeItems (record : Record R) (source : Source) (count : Nat) (tail : Option Json.Fault) :
    List (Field R) → List Json → Nat → R → Except Json.Refusal R
  | [], items, _, value => do
    closeItems source count items tail
    pure value
  | field :: fields, item :: items, place, value => do
    let part ← field.format.decode source item
    decodeItems record source count tail fields items (place + 1) (field.set value part)
  | field :: fields, [], place, value => do
    Json.close tail
    match field.absentItem with
    | some part => decodeItems record source count tail fields [] (place + 1) (field.set value part)
    | none =>
      throw (.wrongLength place s!"struct {record.name} with {elements record.fields.length}")

/-- The members of a document that holds the record. -/
def encodedMembers (record : Record R) (value : R) : List (String × Json) :=
  record.fields.filterMap fun field => field.member? value

/-- The properties of the record's schema. -/
def properties (record : Record R) : List (String × Schema) :=
  record.fields.map fun field => (field.key, field.schema)

/-- The schema of the record. -/
def schema (record : Record R) : Schema :=
  let plain := Schema.record record.properties
    ((record.fields.filter fun field => field.absent.isNone).map Field.key)
  match record.description with
  | some description => .described description plain
  | none => plain

/-- The record as it is shown. -/
def shown (record : Record R) (value : R) : String :=
  let fields := record.fields.map fun field => field.shown value
  record.name ++ " \x7b " ++ ", ".intercalate fields ++ " \x7d"

/-- The format of a record of this library's own resources. -/
def format (record : Record R) : Format R where
  decode source
    | .object members tail => record.decodeObject false source members tail
    | .array items tail =>
      record.decodeItems source items.length tail record.fields items 0 record.initial
    | other => .error (other.refusal s!"struct {record.name}")
  encode value := .object (record.encodedMembers value) none
  schema := record.schema
  shown := record.shown

/-- The format of a core type of the cluster. -/
def coreFormat (record : Record R) : Format R where
  decode source
    | .object members tail => record.decodeObject true source members tail
    | other => .error (other.refusal record.name)
  encode value := .object (record.encodedMembers value) none
  schema := record.schema
  shown := record.shown

end Record

end BucketMount
