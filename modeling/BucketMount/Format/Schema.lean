import BucketMount.Dictionary
import BucketMount.Json.Basic

/-!
# Schemas of resource fields

A schema says which trees a field admits, in the structural subset that a
resource definition may use: strings, flags, a choice of strings, lists,
dictionaries and records, each with a title, a description, a default and
permission to be null. Members that a record does not list are admitted. The tree
of a schema has its members in ascending order.

Formats, patterns and numeric bounds are not part of the subset.
-/

namespace BucketMount

/-- What a field admits. -/
inductive Schema where
  | string
  | boolean
  | choice (names : List String)
  | list (item : Schema)
  | dictionary (value : Schema)
  | record (properties : List (String × Schema)) (required : List String)
  | described (description : String) (inner : Schema)
  | defaulted (value : Json) (inner : Schema)
  | nullable (inner : Schema)
  | titled (title : String) (inner : Schema)
  | unstructured
  deriving Inhabited

namespace Schema

/-- The member naming a type. -/
def typed (name : String) (others : List (String × Json)) : Dictionary Json :=
  Dictionary.ofList (("type", .string name) :: others)

mutual

/-- The members of a schema's description. An outer annotation replaces an inner
one of the same name. -/
def members : Schema → Dictionary Json
  | .string => typed "string" []
  | .boolean => typed "boolean" []
  | .choice names => typed "string" [("enum", .array (names.map Json.string) none)]
  | .list item => typed "array" [("items", .object (members item).entries none)]
  | .dictionary value =>
    typed "object" [("additionalProperties", .object (members value).entries none)]
  | .record properties required =>
    typed "object" (("properties", .object (propertyMembers properties).entries none)
      :: (if required.isEmpty then [] else [("required", .array (required.map Json.string) none)]))
  | .described description inner => (members inner).insert "description" (.string description)
  | .defaulted value inner => (members inner).insert "default" value
  | .nullable inner => (members inner).insert "nullable" (.boolean true)
  | .titled title inner => (members inner).insert "title" (.string title)
  | .unstructured => Dictionary.ofList [("x-kubernetes-preserve-unknown-fields", .boolean true)]

/-- The members of the properties of a record. -/
def propertyMembers : List (String × Schema) → Dictionary Json
  | [] => .empty
  | (key, schema) :: rest => (propertyMembers rest).insert key (.object (members schema).entries none)

end

/-- The tree of a schema. -/
def tree (schema : Schema) : Json := .object schema.members.entries none

end Schema

end BucketMount
