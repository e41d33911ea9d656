import BucketMount.Format.Record

/-!
# References between objects

A reference points from an object back at the request that produced it. Its
parts may all be unset; the namespace is for an object that has none.
-/

namespace BucketMount

/-- A reference to another object. -/
structure Reference where
  name : Option String
  namespaceName : Option String
  uid : Option String
  deriving DecidableEq

/-- The description of a reference. -/
def Reference.record : Record Reference where
  name := "ObjectRef"
  description := some "Reference to another Kubernetes object"
  initial := ⟨none, none, none⟩
  fields := [
    .optional "name" (some "Name of the referenced object") .string
      Reference.name ({ · with name := · }),
    .optional "namespace"
      (some "Namespace of the referenced object (unset for cluster-scoped kinds)") .string
      Reference.namespaceName ({ · with namespaceName := · }),
    .optional "uid" (some "UID of the referenced object") .string
      Reference.uid ({ · with uid := · })]

end BucketMount
