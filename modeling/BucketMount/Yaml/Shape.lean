import BucketMount.Json.Basic
import BucketMount.Yaml.Value

/-!
# Shapes of values

A shape says which values have a meaning. Null stands for an empty list, dictionary
or record, and where a shape allows it for nothing at all. A record refuses no
member that it does not know, and a tag matters only to a choice between names.

A value is compared with a shape in the order of its entries, and the first
mismatch is the one that is told. Values without a shape of their own are the
values of JSON documents.
-/

namespace BucketMount.Yaml

/-- Which values have a meaning. Members that a record requires come first. -/
inductive Shape where
  | text
  | flag
  | document
  | choice (names : List String)
  | list (item : Shape)
  | dictionary (item : Shape)
  | record (name : String) (required others : List (String × Shape))
  | nullable (inner : Shape)

/-- Why a value does not have a shape. -/
inductive Mismatch where
  | wrongType (found expected : String)
  | unknownChoice (name : String) (known : List String)
  | missingMember (key : String)
  | repeatedMember (key : String)
  deriving DecidableEq, Repr

/-- The wording of a mismatch. -/
def Mismatch.message : Mismatch → String
  | .wrongType found expected => s!"invalid type: {found}, expected {expected}"
  | .unknownChoice name known => s!"unknown variant `{name}`, {Json.alternatives known}"
  | .missingMember key => s!"missing field `{key}`"
  | .repeatedMember key => s!"duplicate field `{key}`"

/-- The mismatch of a value where another was wanted. -/
def Value.instead (value : Value) (expected : String) : Except Mismatch Unit :=
  .error (.wrongType value.found expected)

/-- The text that a key is. -/
def textKey (expected : String) (key : Value) : Except Mismatch String :=
  match key.untagged with
  | .text name => .ok name
  | other => .error (.wrongType other.found expected)

/-- One of some names. -/
def checkName (names : List String) (name : String) : Except Mismatch Unit :=
  if names.contains name then .ok () else .error (.unknownChoice name names)

/-- Every member that a record requires is there. -/
def checkRequired (seen : List String) (required : List (String × Shape)) :
    Except Mismatch Unit :=
  match required.find? fun member => !seen.contains member.1 with
  | some member => .error (.missingMember member.1)
  | none => .ok ()

mutual

/-- A value of any shape has nothing but text keys and no tags. -/
def checkDocument : Value → Except Mismatch Unit
  | .list items => checkDocumentItems items
  | .mapping entries => checkDocumentEntries "a string key" entries
  | .tagged tag value => (Value.tagged tag value).instead "any valid JSON value"
  | _ => .ok ()

/-- The items of a list of any shape. -/
def checkDocumentItems : List Value → Except Mismatch Unit
  | [] => .ok ()
  | item :: rest => do
    checkDocument item
    checkDocumentItems rest

/-- The entries of a mapping of any shape. The first key has a wording of its own. -/
def checkDocumentEntries (expected : String) : List (Value × Value) → Except Mismatch Unit
  | [] => .ok ()
  | (key, value) :: rest => do
    let _ ← textKey expected key
    checkDocument value
    checkDocumentEntries "a string" rest

end

mutual

/-- Compares a value with a shape. -/
def checkShape : Shape → Value → Except Mismatch Unit
  | .nullable _, .null => .ok ()
  | .nullable inner, value => checkShape inner value
  | .document, value => checkDocument value
  | .text, value =>
    match value.untagged with
    | .text _ => .ok ()
    | other => other.instead "a string"
  | .flag, value =>
    match value.untagged with
    | .boolean _ => .ok ()
    | other => other.instead "a boolean"
  | .choice names, value =>
    match value with
    | .text name => checkName names name
    | .tagged name held => do
      checkName names name
      match held.untagged with
      | .null => .ok ()
      | other => other.instead "unit"
    | other => other.instead "a Value::Tagged enum"
  | .list item, value =>
    match value.untagged with
    | .list items => items.forM (checkShape item)
    | .null => .ok ()
    | other => other.instead "a sequence"
  | .dictionary item, value =>
    match value.untagged with
    | .mapping entries => entries.forM fun (key, value) => do
      let _ ← textKey "a string" key
      checkShape item value
    | .null => .ok ()
    | other => other.instead "a map"
  | .record name required others, value => do
    match value.untagged with
    | .mapping entries => do
      let seen ← entries.foldlM (fun seen (key, value) => do
        let key ← textKey "field identifier" key
        let known ← checkMember seen key value required
        let known ← if known then pure true else checkMember seen key value others
        pure (if known then key :: seen else seen)) []
      checkRequired seen required
    | .null => checkRequired [] required
    | other => other.instead s!"struct {name}"

/-- Compares the value of a member with its shape, and tells whether there is a member
of that name. -/
def checkMember (seen : List String) (key : String) (value : Value) :
    List (String × Shape) → Except Mismatch Bool
  | [] => .ok false
  | (name, shape) :: rest =>
    if name = key then
      if seen.contains key then .error (.repeatedMember key)
      else (checkShape shape value).map fun _ => true
    else checkMember seen key value rest

end

end BucketMount.Yaml
