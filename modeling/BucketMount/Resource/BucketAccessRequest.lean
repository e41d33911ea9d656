import BucketMount.Resource.Custom

/-!
# Requests for access

A workload asks for access to a bucket from within its namespace. Once the
request is approved, its status names the grant.
-/

namespace BucketMount

/-- What a workload asks for. -/
structure BucketAccessRequestSpec where
  serviceAccountName : String
  bucketRequestName : String
  bucketAccessClassName : String
  deriving DecidableEq

/-- What is reported of a request for access. -/
structure BucketAccessRequestStatus where
  accessGranted : Bool
  bucketAccessName : String
  deriving DecidableEq

/-- A request for access to one bucket. -/
abbrev BucketAccessRequest := CustomObject BucketAccessRequestSpec BucketAccessRequestStatus

/-- The description of what a workload asks for. -/
def BucketAccessRequestSpec.record : Record BucketAccessRequestSpec where
  name := "BucketAccessRequestSpec"
  description := some <|
    "BucketAccessRequest asks for credentials to a bucket on behalf of a workload.\n\n" ++
    "Example: ```yaml apiVersion: objectstorage.k8s.io/v1alpha1 kind: BucketAccessRequest " ++
    "metadata: name: my-access namespace: apps spec: serviceAccountName: uploader " ++
    "bucketRequestName: my-bucket bucketAccessClassName: standard ```"
  initial := ⟨"", "", ""⟩
  fields := [
    .defaulted "serviceAccountName" "Service account the workload runs as" .string ""
      BucketAccessRequestSpec.serviceAccountName ({ · with serviceAccountName := · }),
    .defaulted "bucketRequestName" "Name of the BucketRequest this access targets" .string ""
      BucketAccessRequestSpec.bucketRequestName ({ · with bucketRequestName := · }),
    .defaulted "bucketAccessClassName" "BucketAccessClass used to mint the grant" .string ""
      BucketAccessRequestSpec.bucketAccessClassName ({ · with bucketAccessClassName := · })]

/-- The description of what is reported of a request for access. -/
def BucketAccessRequestStatus.record : Record BucketAccessRequestStatus where
  name := "BucketAccessRequestStatus"
  description := some "BucketAccessRequest status"
  initial := ⟨false, ""⟩
  fields := [
    .defaulted "accessGranted" "Whether the controller approved the request" .boolean false
      BucketAccessRequestStatus.accessGranted ({ · with accessGranted := · }),
    .defaulted "bucketAccessName" "Name of the BucketAccess minted for this request" .string ""
      BucketAccessRequestStatus.bucketAccessName ({ · with bucketAccessName := · })]

namespace BucketAccessRequest

/-- Requests for access as a custom kind. -/
def kind : CustomKind BucketAccessRequestSpec BucketAccessRequestStatus where
  name := "BucketAccessRequest"
  plural := "bucketaccessrequests"
  scope := .namespaced
  spec := BucketAccessRequestSpec.record
  status := BucketAccessRequestStatus.record
  columns := [⟨"Granted", "boolean", ".status.accessGranted"⟩,
    ⟨"Access", "string", ".status.bucketAccessName"⟩]

/-- True once the request is reported to be approved. -/
def granted (request : BucketAccessRequest) : Bool :=
  request.status.any BucketAccessRequestStatus.accessGranted

/-- The name of the request for the bucket, if set. -/
def bucketRequestName? (request : BucketAccessRequest) : Option String :=
  nonEmpty? request.spec.bucketRequestName

/-- The name of the grant, if set. -/
def bucketAccessName? (request : BucketAccessRequest) : Option String :=
  request.status.bind fun status => nonEmpty? status.bucketAccessName

end BucketAccessRequest

end BucketMount
