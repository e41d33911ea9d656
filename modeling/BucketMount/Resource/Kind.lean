import BucketMount.Resource.Bucket
import BucketMount.Resource.BucketAccess
import BucketMount.Resource.BucketAccessRequest
import BucketMount.Resource.BucketRequest
import BucketMount.Resource.Secret

/-!
# Kinds and where their objects are served

A cluster serves every object under a path: the group and version of its kind,
the namespace for a kind whose objects live in namespaces, the kind's plural, and
the object's name. Names and namespaces are put into the path as they are, so
two different ones may end up in one path.
-/

namespace BucketMount

/-- The kinds of objects that a node looks up. -/
inductive Kind where
  | bucketAccessRequest
  | bucketAccess
  | bucketRequest
  | bucket
  | secret
  deriving DecidableEq, Repr

namespace Kind

/-- The word for a kind in messages. -/
def word : Kind → String
  | .bucketAccessRequest => "bucketAccessRequest"
  | .bucketAccess => "bucketAccess"
  | .bucketRequest => "bucketRequest"
  | .bucket => "bucket"
  | .secret => "secret"

/-- The plural under which objects of a kind are served. -/
def plural : Kind → String
  | .bucketAccessRequest => BucketAccessRequest.kind.plural
  | .bucketAccess => BucketAccess.kind.plural
  | .bucketRequest => BucketRequest.kind.plural
  | .bucket => Bucket.kind.plural
  | .secret => "secrets"

/-- The scope of a kind. -/
def scope : Kind → Scope
  | .bucketAccessRequest => BucketAccessRequest.kind.scope
  | .bucketAccess => BucketAccess.kind.scope
  | .bucketRequest => BucketRequest.kind.scope
  | .bucket => Bucket.kind.scope
  | .secret => .namespaced

/-- The path of a group and version. -/
def root : Kind → String
  | .secret => "/api/v1"
  | _ => "/apis/" ++ CustomKind.apiVersion

end Kind

/-- The path of a collection, within a namespace if one is given. -/
def collectionPath (root plural : String) : Option String → String
  | some namespaceName => root ++ "/namespaces/" ++ namespaceName ++ "/" ++ plural
  | none => root ++ "/" ++ plural

/-- An object as a request addresses it; kinds of the cluster have no namespace. -/
structure Address where
  kind : Kind
  namespaceName : Option String
  name : String
  deriving DecidableEq, Repr

namespace Address

/-- The path under which the object is served. -/
def path (address : Address) : String :=
  collectionPath address.kind.root address.kind.plural address.namespaceName ++ "/" ++ address.name

end Address

end BucketMount
