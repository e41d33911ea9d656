import BucketMount.Format.Document
import BucketMount.Format.Record
import BucketMount.Json.Equality

/-!
# Metadata of stored objects

Every stored object carries metadata: its name and namespace, its labels, the
version it was read at, and its finalizers, the markers that keep it from being
deleted. Every field may be unset, which is not the same as empty. What the store
itself defines of metadata but this library does not know is dropped.
-/

namespace BucketMount

/-- An object on which another object depends. -/
structure OwnerReference where
  apiVersion : String
  blockOwnerDeletion : Option Bool
  controller : Option Bool
  kind : String
  name : String
  uid : String
  deriving DecidableEq

/-- Which fields of an object a manager last wrote. The set of fields is a tree
of no fixed shape. -/
structure ManagedFields where
  apiVersion : Option String
  fieldsType : Option String
  fields : Option Json
  manager : Option String
  operation : Option String
  subresource : Option String
  time : Option Timestamp
  deriving DecidableEq

/-- The metadata of an object. -/
structure Metadata where
  annotations : Option (Dictionary String)
  creationTimestamp : Option Timestamp
  deletionGracePeriodSeconds : Option Int
  deletionTimestamp : Option Timestamp
  finalizers : Option (List String)
  generateName : Option String
  generation : Option Int
  labels : Option (Dictionary String)
  managedFields : Option (List ManagedFields)
  name : Option String
  namespaceName : Option String
  ownerReferences : Option (List OwnerReference)
  resourceVersion : Option String
  selfLink : Option String
  uid : Option String
  deriving DecidableEq

namespace OwnerReference

/-- A field that is a text, for which null and absence stand for the empty one. -/
def textField (key : String) (get : OwnerReference → String)
    (set : OwnerReference → String → OwnerReference) : Field OwnerReference :=
  .elided key none (.nullAs "" .string) "" (fun _ => false) get set

/-- The description of an owner. -/
def record : Record OwnerReference where
  name := "OwnerReference"
  description := none
  initial := ⟨"", none, none, "", "", ""⟩
  fields := [
    textField "apiVersion" apiVersion ({ · with apiVersion := · }),
    .optional "blockOwnerDeletion" none .boolean blockOwnerDeletion
      ({ · with blockOwnerDeletion := · }),
    .optional "controller" none .boolean controller ({ · with controller := · }),
    textField "kind" kind ({ · with kind := · }),
    textField "name" name ({ · with name := · }),
    textField "uid" uid ({ · with uid := · })]

end OwnerReference

namespace ManagedFields

/-- The description of a manager's fields. -/
def record : Record ManagedFields where
  name := "ManagedFieldsEntry"
  description := none
  initial := ⟨none, none, none, none, none, none, none⟩
  fields := [
    .optional "apiVersion" none .string apiVersion ({ · with apiVersion := · }),
    .optional "fieldsType" none .string fieldsType ({ · with fieldsType := · }),
    .optional "fieldsV1" none .unstructured ManagedFields.fields
      (fun entry value => { entry with fields := value }),
    .optional "manager" none .string manager ({ · with manager := · }),
    .optional "operation" none .string operation ({ · with operation := · }),
    .optional "subresource" none .string subresource ({ · with subresource := · }),
    .optional "time" none .timestamp time ({ · with time := · })]

end ManagedFields

namespace Metadata

/-- Metadata with nothing set. -/
def empty : Metadata :=
  ⟨none, none, none, none, none, none, none, none, none, none, none, none, none, none, none⟩

instance : Inhabited Metadata := ⟨empty⟩

/-- The description of metadata. -/
def record : Record Metadata where
  name := "ObjectMeta"
  description := none
  initial := empty
  fields := [
    .optional "annotations" none (.dictionary .string) annotations ({ · with annotations := · }),
    .optional "creationTimestamp" none .timestamp creationTimestamp
      ({ · with creationTimestamp := · }),
    .optional "deletionGracePeriodSeconds" none .integer deletionGracePeriodSeconds
      ({ · with deletionGracePeriodSeconds := · }),
    .optional "deletionTimestamp" none .timestamp deletionTimestamp
      ({ · with deletionTimestamp := · }),
    .optional "finalizers" none (.list .string) finalizers ({ · with finalizers := · }),
    .optional "generateName" none .string generateName ({ · with generateName := · }),
    .optional "generation" none .integer generation ({ · with generation := · }),
    .optional "labels" none (.dictionary .string) labels ({ · with labels := · }),
    .optional "managedFields" none (.list ManagedFields.record.coreFormat) managedFields
      ({ · with managedFields := · }),
    .optional "name" none .string name ({ · with name := · }),
    .optional "namespace" none .string namespaceName ({ · with namespaceName := · }),
    .optional "ownerReferences" none (.list OwnerReference.record.coreFormat) ownerReferences
      ({ · with ownerReferences := · }),
    .optional "resourceVersion" none .string resourceVersion ({ · with resourceVersion := · }),
    .optional "selfLink" none .string selfLink ({ · with selfLink := · }),
    .optional "uid" none .string uid ({ · with uid := · })]

/-- The format of metadata. -/
def format : Format Metadata := record.coreFormat

/-- The name an object goes by: its own, else the stem for a generated one, else
the empty text. An empty name is still a name. -/
def displayName (metadata : Metadata) : String :=
  (metadata.name.or metadata.generateName).getD ""

end Metadata

end BucketMount
