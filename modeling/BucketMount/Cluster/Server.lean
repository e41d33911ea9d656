import BucketMount.Cluster.Basic
import BucketMount.Http.Client

/-!
# The server of a cluster

The server answers requests by path; what stands behind a question mark does not
matter to it. It answers a read with the text stored there, and a replacement by
storing the new text and answering it. Where nothing is stored there is nothing to
read or to replace.
-/

namespace BucketMount.Cluster

/-- The kind that is served under a plural. -/
def kindNamed? (plural : String) : Option Kind :=
  [Kind.bucketAccessRequest, .bucketAccess, .bucketRequest, .bucket, .secret].find? fun kind =>
    kind.plural == plural

/-- The kind of the object at a path: its plural stands behind the version, or
behind the namespace if there is one. -/
def kindAt? (path : String) : Option Kind :=
  let behind := match (path.toList.splitOn '/').map String.ofList with
    | "" :: "apis" :: _ :: _ :: rest => rest
    | "" :: "api" :: _ :: rest => rest
    | _ => []
  match behind with
  | "namespaces" :: _ :: plural :: _ => kindNamed? plural
  | plural :: _ => kindNamed? plural
  | [] => none

/-- The text of a refusal. -/
def refusalText (refusal : ServerRefusal) : String :=
  Json.text (.object [("code", .number (.whole refusal.code)), ("message", .string refusal.message),
    ("reason", .string refusal.reason), ("status", .string refusal.status)] none)

/-- The response that tells a refusal. -/
def refuse (refusal : ServerRefusal) : Http.Response := ⟨refusal.code, refusalText refusal⟩

/-- The sort of access that a request is. -/
def accessOf? (request : Http.Request) : Option Access :=
  match request.method with
  | .put => some .update
  | .get => (kindAt? request.target.path).map .find

/-- Serves a request from what is stored. -/
def serve (request : Http.Request) (cluster : Cluster) : Http.Response × Cluster :=
  let path := request.target.path
  match cluster.get? path, request.method with
  | none, _ => (refuse ⟨"Failure", path ++ " not found", "NotFound", 404⟩, cluster)
  | some text, .get => (⟨200, text⟩, cluster)
  | some _, .put =>
    let text := request.body.getD ""
    (⟨200, text⟩, cluster.put path text)

/-- Answers a request: with the fault that waits for it, or from what is stored. -/
def answer (request : Http.Request) (cluster : Cluster) : Http.Response × Cluster :=
  let (fault, next) := match accessOf? request with
    | some access => cluster.meet access
    | none => (none, cluster)
  match fault with
  | some fault =>
    (⟨fault.refusal.code, fault.body.getD (refusalText fault.refusal)⟩, next)
  | none => serve request next

/-- The transport to a cluster's server that can be reached. -/
def transport : Http.Transport Cluster :=
  fun request cluster =>
    let (response, next) := cluster.answer request
    (if Http.validStatus response.status then .ok response else .error .badStatus, next)

end BucketMount.Cluster
