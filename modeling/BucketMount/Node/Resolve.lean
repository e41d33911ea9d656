import BucketMount.Node.Operation

/-!
# From an access request to a bucket

A request for access leads to a grant, the grant to a bucket and to a secret with
credentials. The links are looked up one after the other, and each has to be
ready before the next is looked up: the request and the grant have to be in force
and to name what comes next, the bucket has to be available, the secret has to
exist. The first link that is not ready ends the walk. Nothing is tried twice.

The secret is read from the namespace that the caller names, whatever the request
itself says. The grant may name no bucket; then the bucket with the empty name is
looked up.
-/

namespace BucketMount

/-- What a node needs to publish a bucket to a pod. -/
structure Resolved where
  bucket : Bucket
  access : BucketAccess
  secret : Secret

namespace Node

variable {σ α : Type}

/-- How an object in a namespace is named in messages. -/
def identifier (namespaceName name : String) : String := namespaceName ++ "/" ++ name

/-- Logs that an object is being looked up. -/
def announce (kind : Kind) (field shownName : String) : Operation σ Unit :=
  .log ⟨.info, Operation.resolverTarget, "getting " ++ kind.word, [(field, .shown shownName)], none⟩

/-- Looks an object up that has to exist. -/
def lookUp (kind : Kind) (shownName : String) (call : Call σ (Option α)) : Operation σ α := do
  let found ← Operation.call (.lookup kind.word shownName) call
  Operation.demand (.notFound kind.word shownName) found

/-- The span of a lookup by name. -/
def spanOf (operation name : String) : Log.Span :=
  ⟨operation, Operation.resolverTarget, [("name", name)]⟩

/-- The span of a lookup by name and namespace. -/
def spanWithin (operation name namespaceName : String) : Log.Span :=
  ⟨operation, Operation.resolverTarget, [("name", name), ("namespace", namespaceName)]⟩

/-- Looks up a request for access that is in force and names what it leads to. -/
def bucketAccessRequest (client : Client σ) (name namespaceName : String) :
    Operation σ BucketAccessRequest :=
  .inside (spanWithin "get_bucket_access_request" name namespaceName) do
    let kind := Kind.bucketAccessRequest
    let shownName := identifier namespaceName name
    announce kind "bucket_access_request" shownName
    let request ← lookUp kind shownName (client.findBucketAccessRequest name namespaceName)
    .check (.notReady kind.word shownName "does not grant access") request.granted
    .check (.fieldUnset kind.word "spec.bucketRequestName") request.bucketRequestName?.isSome
    .check (.fieldUnset kind.word "status.bucketAccessName") request.bucketAccessName?.isSome
    pure request

/-- Looks up a grant that is in force and names the secret. -/
def bucketAccess (client : Client σ) (name : String) : Operation σ BucketAccess :=
  .inside (spanOf "get_bucket_access" name) do
    let kind := Kind.bucketAccess
    announce kind "bucket_access" name
    let access ← lookUp kind name (client.findBucketAccess name)
    .check (.notReady kind.word name "does not grant access") access.granted
    .check (.fieldUnset kind.word "spec.mintedSecretName") access.mintedSecretName?.isSome
    pure access

/-- Looks up a request for a bucket that is available. -/
def bucketRequest (client : Client σ) (name namespaceName : String) : Operation σ BucketRequest :=
  .inside (spanWithin "get_bucket_request" name namespaceName) do
    let kind := Kind.bucketRequest
    let shownName := identifier namespaceName name
    announce kind "bucket_request" shownName
    let request ← lookUp kind shownName (client.findBucketRequest name namespaceName)
    .check (.notReady kind.word shownName "is not available yet") request.available
    .check (.fieldUnset kind.word "status.bucketName") request.bucketName?.isSome
    pure request

/-- Looks up a bucket that is available. -/
def bucket (client : Client σ) (name : String) : Operation σ Bucket :=
  .inside (spanOf "get_bucket" name) do
    let kind := Kind.bucket
    announce kind "bucket" name
    let bucket ← lookUp kind name (client.findBucket name)
    .check (.notReady kind.word name "is not available yet") bucket.available
    pure bucket

/-- Looks up a secret. -/
def secret (client : Client σ) (name namespaceName : String) : Operation σ Secret :=
  .inside (spanWithin "get_secret" name namespaceName) do
    let kind := Kind.secret
    let shownName := identifier namespaceName name
    announce kind "secret" shownName
    lookUp kind shownName (client.findSecret name namespaceName)

/-- Walks from a request for access to the bucket and the credentials. -/
def resolve (client : Client σ) (name namespaceName : String) : Operation σ Resolved := do
  let request ← bucketAccessRequest client name namespaceName
  let access ← bucketAccess client (request.bucketAccessName?.getD "")
  let bucket ← bucket client (access.bucketName?.getD "")
  let secret ← secret client (access.mintedSecretName?.getD "") namespaceName
  pure ⟨bucket, access, secret⟩

end Node

end BucketMount
