import BucketMount.Resource.Custom

/-!
# Requests for buckets

A workload asks for a new bucket from within its namespace. Once the bucket is
provisioned, the status of the request names it.
-/

namespace BucketMount

/-- What is wanted of the new bucket. -/
structure BucketRequestSpec where
  bucketPrefix : String
  bucketClassName : String
  deriving DecidableEq

/-- What is reported of a request for a bucket. -/
structure BucketRequestStatus where
  bucketAvailable : Bool
  bucketName : String
  deriving DecidableEq

/-- A request for a bucket. -/
abbrev BucketRequest := CustomObject BucketRequestSpec BucketRequestStatus

/-- The description of what is wanted of the new bucket. -/
def BucketRequestSpec.record : Record BucketRequestSpec where
  name := "BucketRequestSpec"
  description := some "BucketRequest asks the provisioner for a new bucket."
  initial := ⟨"", ""⟩
  fields := [
    .elided "bucketPrefix" (some "Prefix for the generated bucket name") .string "" (· == "")
      BucketRequestSpec.bucketPrefix ({ · with bucketPrefix := · }),
    .defaulted "bucketClassName" "BucketClass used to provision the bucket" .string ""
      BucketRequestSpec.bucketClassName ({ · with bucketClassName := · })]

/-- The description of what is reported of a request for a bucket. -/
def BucketRequestStatus.record : Record BucketRequestStatus where
  name := "BucketRequestStatus"
  description := some "BucketRequest status"
  initial := ⟨false, ""⟩
  fields := [
    .defaulted "bucketAvailable" "Whether the bucket has been provisioned" .boolean false
      BucketRequestStatus.bucketAvailable ({ · with bucketAvailable := · }),
    .defaulted "bucketName" "Name of the provisioned Bucket" .string ""
      BucketRequestStatus.bucketName ({ · with bucketName := · })]

namespace BucketRequest

/-- Requests for buckets as a custom kind. -/
def kind : CustomKind BucketRequestSpec BucketRequestStatus where
  name := "BucketRequest"
  plural := "bucketrequests"
  scope := .namespaced
  spec := BucketRequestSpec.record
  status := BucketRequestStatus.record
  columns := [⟨"Available", "boolean", ".status.bucketAvailable"⟩,
    ⟨"Bucket", "string", ".status.bucketName"⟩]

/-- True once the bucket is reported to be available. -/
def available (request : BucketRequest) : Bool :=
  request.status.any BucketRequestStatus.bucketAvailable

/-- The name of the bucket, if set. -/
def bucketName? (request : BucketRequest) : Option String :=
  request.status.bind fun status => nonEmpty? status.bucketName

end BucketRequest

end BucketMount
