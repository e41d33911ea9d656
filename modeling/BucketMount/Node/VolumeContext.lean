import BucketMount.Dictionary
import BucketMount.Node.Operation

/-!
# Volume contexts

A volume to be mounted comes with a dictionary of texts. Four of its keys name
the access request and the pod; they are looked up in a fixed order, and the
first one missing is reported. Empty texts are as good as any.
-/

namespace BucketMount

/-- What a volume context says about an access request and a pod. -/
structure VolumeContext where
  requestName : String
  requestNamespace : String
  podName : String
  podNamespace : String
  deriving DecidableEq, Repr

namespace VolumeContext

/-- The key of the access request's name. -/
def requestNameKey : String := "bar-name"

/-- The key of the access request's namespace. -/
def requestNamespaceKey : String := "bar-namespace"

/-- The key of the pod's name. -/
def podNameKey : String := "csi.storage.k8s.io/pod.name"

/-- The key of the pod's namespace. -/
def podNamespaceKey : String := "csi.storage.k8s.io/pod.namespace"

/-- The value of a key that has to be there. -/
def required (context : Dictionary String) (key : String) : Except NodeError String :=
  match context.get? key with
  | some value => .ok value
  | none => .error (.missingContextKey key)

/-- Reads the four keys. -/
def ofDictionary (context : Dictionary String) : Except NodeError VolumeContext := do
  let requestName ← required context requestNameKey
  let requestNamespace ← required context requestNamespaceKey
  let podName ← required context podNameKey
  let podNamespace ← required context podNamespaceKey
  pure ⟨requestName, requestNamespace, podName, podNamespace⟩

/-- The event that announces the reading. -/
def event : Log.Event :=
  ⟨.info, "cosi_node::context", "parsing bucketAccessRequest namespace/name from volume context",
    [], none⟩

/-- Reads the four keys and logs that it does. -/
def read {σ : Type} (context : Dictionary String) : Operation σ VolumeContext :=
  fun state => ⟨ofDictionary context, [event], state⟩

end VolumeContext

end BucketMount
