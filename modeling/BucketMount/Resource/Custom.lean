import BucketMount.Resource.Metadata

/-!
# Objects of custom kinds

A custom kind extends the cluster with objects that have metadata, a
specification written by whoever wants something, and a status written by
whoever provides it. A document of such an object names its group, version and
kind; these are written but not checked when it is read. The status may be
missing or null, which means that nobody has reported on the object yet.
-/

namespace BucketMount

/-- An object of a custom kind. -/
structure CustomObject (Spec Status : Type) where
  metadata : Metadata
  spec : Spec
  status : Option Status
  deriving DecidableEq

/-- Whether the objects of a kind live in namespaces or belong to the cluster. -/
inductive Scope where
  | namespaced
  | cluster
  deriving DecidableEq, Repr

/-- A column that a listing of objects shows. -/
structure PrinterColumn where
  name : String
  type : String
  path : String
  deriving DecidableEq, Repr

/-- A custom kind: its names, its scope, and its two records. -/
structure CustomKind (Spec Status : Type) where
  name : String
  plural : String
  scope : Scope
  spec : Record Spec
  status : Record Status
  columns : List PrinterColumn

namespace CustomKind

/-- The group of all custom kinds of this library. -/
def group : String := "objectstorage.k8s.io"

/-- The version of all custom kinds of this library. -/
def version : String := "v1alpha1"

/-- Group and version together. -/
def apiVersion : String := group ++ "/" ++ version

variable {Spec Status : Type}

/-- The description of what a document holds besides its group, version and
kind. A list has to hold the status, if only as null. -/
def envelope (kind : CustomKind Spec Status) : Record (CustomObject Spec Status) where
  name := kind.name
  description := none
  initial := ⟨.empty, kind.spec.initial, none⟩
  fields := [
    .required "metadata" none Metadata.format CustomObject.metadata ({ · with metadata := · }),
    .required "spec" none kind.spec.format CustomObject.spec ({ · with spec := · }),
    { key := "status", description := none, Value := Option Status
      format := .optional kind.status.format, absent := some none, absentItem := none
      omits := Option.isNone, get := CustomObject.status
      set := fun object status => { object with status := status } }]

/-- The schema of a document without its metadata, which the store checks. -/
def schema (kind : CustomKind Spec Status) : Schema :=
  .record [("spec", kind.spec.schema), ("status", .nullable kind.status.schema)] ["spec"]

/-- The format of an object. -/
def format (kind : CustomKind Spec Status) : Format (CustomObject Spec Status) where
  decode := kind.envelope.format.decode
  encode object :=
    .object (("apiVersion", .string apiVersion) :: ("kind", .string kind.name)
      :: kind.envelope.encodedMembers object) none
  schema := kind.schema
  shown := kind.envelope.shown

end CustomKind

/-- A text that is not empty; the empty text stands for an unset field. -/
def nonEmpty? (text : String) : Option String := if text = "" then none else some text

end BucketMount
