import BucketMount.Cluster.Basic
import BucketMount.Format.Document
import BucketMount.Node.Client

/-!
# A client with direct access to a cluster

The client looks its objects up in the cluster itself, with no requests between
them, and logs nothing. It replaces a grant whether or not there is one, and hands back the grant
that it was given.
-/

namespace BucketMount.Cluster

/-- Looks an object up by its address. -/
def find {α : Type} (format : Format α) (address : Address) : Call Cluster (Option α) :=
  fun cluster =>
    match cluster.meet (.find address.kind) with
    | (some fault, next) => .quiet (.error (.refused fault.refusal)) next
    | (none, next) =>
      match next.get? address.path with
      | none => .quiet (.ok none) next
      | some text => .quiet ((format.ofText text).map some |>.mapError .undecodable) next

/-- Replaces a grant under the name it goes by. -/
def replace (access : BucketAccess) : Call Cluster BucketAccess :=
  fun cluster =>
    match cluster.meet .update with
    | (some fault, next) => .quiet (.error (.refused fault.refusal)) next
    | (none, next) =>
      let address : Address := ⟨.bucketAccess, none, access.metadata.displayName⟩
      .quiet (.ok access) (next.put address.path (BucketAccess.kind.format.toText access))

/-- The client with direct access. -/
def client : Client Cluster where
  findBucketAccessRequest name namespaceName :=
    find BucketAccessRequest.kind.format ⟨.bucketAccessRequest, some namespaceName, name⟩
  findBucketAccess name := find BucketAccess.kind.format ⟨.bucketAccess, none, name⟩
  findBucketRequest name namespaceName :=
    find BucketRequest.kind.format ⟨.bucketRequest, some namespaceName, name⟩
  findBucket name := find Bucket.kind.format ⟨.bucket, none, name⟩
  findSecret name namespaceName :=
    find Secret.format ⟨.secret, some namespaceName, name⟩
  replaceBucketAccess := replace

end BucketMount.Cluster
