import BucketMount.Resource.Kind

/-!
# Manifests of custom kinds

A manifest tells a cluster which custom kind to serve: its names, its scope, the
schema of its objects, and the columns of a listing. The schema is the one of the
kind's own format, so that what is admitted and what is decoded have one source.
-/

namespace BucketMount

/-- An object with its members in ascending order. -/
def ascending (members : List (String × Json)) : Json :=
  .object (Dictionary.ofList members).entries none

/-- A list of texts. -/
def texts (values : List String) : Json := .array (values.map Json.string) none

/-- The description of a printer column. -/
def PrinterColumn.tree (column : PrinterColumn) : Json :=
  ascending [("jsonPath", .string column.path), ("name", .string column.name),
    ("type", .string column.type)]

/-- The word for a scope. -/
def Scope.word : Scope → String
  | .namespaced => "Namespaced"
  | .cluster => "Cluster"

namespace CustomKind

variable {Spec Status : Type}

/-- The name under which the kind is registered. -/
def registeredName (kind : CustomKind Spec Status) : String := kind.plural ++ "." ++ group

/-- The path of the kind's objects, within a namespace if one is given. -/
def path (kind : CustomKind Spec Status) (namespaceName : Option String) : String :=
  collectionPath ("/apis/" ++ apiVersion) kind.plural namespaceName

/-- The schema that the manifest declares. -/
def declaredSchema (kind : CustomKind Spec Status) : Schema :=
  .titled kind.name (.described
    s!"Auto-generated derived type for {kind.spec.name} via `CustomResource`" kind.schema)

/-- The one version of the kind. -/
def versionTree (kind : CustomKind Spec Status) : Json :=
  ascending [
    ("additionalPrinterColumns", .array (kind.columns.map PrinterColumn.tree) none),
    ("name", .string version),
    ("schema", ascending [("openAPIV3Schema", kind.declaredSchema.tree)]),
    ("served", .boolean true),
    ("storage", .boolean true),
    ("subresources", ascending [("status", .object [] none)])]

/-- The manifest of the kind. -/
def manifest (kind : CustomKind Spec Status) : Json :=
  ascending [
    ("apiVersion", .string "apiextensions.k8s.io/v1"),
    ("kind", .string "CustomResourceDefinition"),
    ("metadata", ascending [("name", .string kind.registeredName)]),
    ("spec", ascending [
      ("group", .string group),
      ("names", ascending [
        ("categories", texts []),
        ("kind", .string kind.name),
        ("plural", .string kind.plural),
        ("shortNames", texts []),
        ("singular", .string kind.name.toLower)]),
      ("scope", .string kind.scope.word),
      ("versions", .array [kind.versionTree] none)])]

end CustomKind

/-- The manifests of all custom kinds, in the order in which they are printed. -/
def manifests : List Json :=
  [BucketAccessRequest.kind.manifest, BucketAccess.kind.manifest, BucketRequest.kind.manifest,
    Bucket.kind.manifest]

end BucketMount
