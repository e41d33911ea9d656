import BucketMount.Finalizer
import BucketMount.Node.Operation

/-!
# Protecting a grant in use

A node marks a grant while a pod has the bucket mounted. It changes its own copy
of the grant first and then replaces the stored one by it, even if nothing
changed. When that fails its own copy stays changed, and it does not try again.
-/

namespace BucketMount.Node

variable {σ : Type}

/-- The copy of a grant with a marker added or removed. -/
def marked (action : Finalizer.Action) (marker : String) (access : BucketAccess) : BucketAccess :=
  { access with metadata := (Finalizer.applyTo action marker access.metadata).1 }

/-- The event that announces a change of markers. -/
def markingEvent (action : Finalizer.Action) (marker : String) (access : BucketAccess) :
    Log.Event :=
  ⟨.info, "cosi_node::finalizer", action.progress ++ " bucketAccess finalizer",
    [("bucket_access", .shown access.metadata.displayName), ("finalizer", .shown marker),
      ("changed", .flag (Finalizer.applyTo action marker access.metadata).2)], none⟩

/-- Replaces the stored grant. -/
def replace (client : Client σ) (access : BucketAccess) : Operation σ BucketAccess :=
  .call (.update Kind.bucketAccess.word access.metadata.displayName)
    (client.replaceBucketAccess access)

/-- Adds a marker to a grant or removes it: the node's own copy afterwards, and
the operation that stores it. -/
def mark (client : Client σ) (action : Finalizer.Action) (marker : String)
    (access : BucketAccess) : BucketAccess × Operation σ BucketAccess :=
  let changed := marked action marker access
  (changed, do
    .log (markingEvent action marker access)
    replace client changed)

end BucketMount.Node
