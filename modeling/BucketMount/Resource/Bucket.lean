import BucketMount.Resource.Custom
import BucketMount.Resource.Protocol
import BucketMount.Resource.Reference

/-!
# Buckets

A bucket belongs to the cluster and records one provisioned store: who
provisioned it, how it is reached, and whether it is available.
-/

namespace BucketMount

/-- What becomes of the store behind a bucket when the bucket is deleted. -/
inductive DeletionPolicy where
  | retain
  | delete
  deriving DecidableEq, Repr

namespace DeletionPolicy

/-- The name of a policy. -/
def name : DeletionPolicy → String
  | .retain => "Retain"
  | .delete => "Delete"

/-- The format of policies. -/
def format : Format DeletionPolicy := .choice [("Retain", .retain), ("Delete", .delete)] name

end DeletionPolicy

/-- What is wanted of a bucket. -/
structure BucketSpec where
  bucketId : String
  provisioner : String
  bucketClassName : String
  bucketRequest : Option Reference
  allowedNamespaces : List String
  protocol : Protocol
  parameters : Dictionary String
  deletionPolicy : DeletionPolicy
  deriving DecidableEq

/-- What is reported of a bucket. -/
structure BucketStatus where
  bucketAvailable : Bool
  message : Option String
  deriving DecidableEq

/-- A provisioned bucket. -/
abbrev Bucket := CustomObject BucketSpec BucketStatus

/-- The description of what is wanted of a bucket. -/
def BucketSpec.record : Record BucketSpec where
  name := "BucketSpec"
  description := some <| "Bucket describes one provisioned storage bucket.\n\n" ++
    "Example: ```yaml apiVersion: objectstorage.k8s.io/v1alpha1 kind: Bucket " ++
    "metadata: name: bucket-abc spec: bucketID: uploads-7f3a " ++
    "provisioner: s3.objectstorage.k8s.io bucketClassName: standard " ++
    "protocol: s3: endpoint: https://s3.us-east-1.amazonaws.com bucketName: uploads-7f3a " ++
    "region: us-east-1 signatureVersion: S3V4 ```"
  initial := ⟨"", "", "", none, [], .empty, .empty, .retain⟩
  fields := [
    .elided "bucketID" (some "Provider-side identifier of the bucket") .string "" (· == "")
      BucketSpec.bucketId ({ · with bucketId := · }),
    .defaulted "provisioner" "Name of the driver that provisioned the bucket" .string ""
      BucketSpec.provisioner ({ · with provisioner := · }),
    .defaulted "bucketClassName" "BucketClass the bucket was provisioned from" .string ""
      BucketSpec.bucketClassName ({ · with bucketClassName := · }),
    .optional "bucketRequest" (some "The BucketRequest that produced this bucket")
      Reference.record.format BucketSpec.bucketRequest ({ · with bucketRequest := · }),
    .elided "allowedNamespaces" (some "Namespaces allowed to request access") (.list .string) []
      List.isEmpty BucketSpec.allowedNamespaces ({ · with allowedNamespaces := · }),
    .defaulted "protocol" "Connection details" Protocol.record.format .empty
      BucketSpec.protocol ({ · with protocol := · }),
    .elided "parameters" (some "Opaque provisioner parameters") (.dictionary .string) .empty
      Dictionary.isEmpty BucketSpec.parameters ({ · with parameters := · }),
    .defaulted "deletionPolicy" "What happens to the backing bucket on deletion"
      DeletionPolicy.format .retain BucketSpec.deletionPolicy ({ · with deletionPolicy := · })]

/-- The description of what is reported of a bucket. -/
def BucketStatus.record : Record BucketStatus where
  name := "BucketStatus"
  description := some "Bucket status"
  initial := ⟨false, none⟩
  fields := [
    .defaulted "bucketAvailable" "Whether the bucket is ready for use" .boolean false
      BucketStatus.bucketAvailable ({ · with bucketAvailable := · }),
    .optional "message" (some "Human-readable message from the provisioner") .string
      BucketStatus.message ({ · with message := · })]

namespace Bucket

/-- Buckets as a custom kind. -/
def kind : CustomKind BucketSpec BucketStatus where
  name := "Bucket"
  plural := "buckets"
  scope := .cluster
  spec := BucketSpec.record
  status := BucketStatus.record
  columns := [⟨"Provisioner", "string", ".spec.provisioner"⟩,
    ⟨"Available", "boolean", ".status.bucketAvailable"⟩]

/-- True once the bucket is reported to be available. -/
def available (bucket : Bucket) : Bool := bucket.status.any BucketStatus.bucketAvailable

end Bucket

end BucketMount
