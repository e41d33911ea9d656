import BucketMount.Resource.BucketAccess

/-!
# Finalizers

A finalizer is a marker on an object that keeps it from being deleted. A node
puts its marker on a grant while a pod has the bucket mounted. Adding a marker
that is there and removing one that is not leave the markers as they are, apart
from one thing: adding turns unset markers into a list. Removing the last marker
makes them unset again.

Each operation says whether the markers changed.
-/

namespace BucketMount

/-- The marker of a node on a grant in use. -/
def bucketAccessFinalizer : String := "cosi.objectstorage.k8s.io/bucketaccess-protection"

namespace Finalizer

/-- Adds a marker behind the others, unless it is there. -/
def add (marker : String) (markers : Option (List String)) : Option (List String) × Bool :=
  let present := markers.getD []
  if present.contains marker then (some present, false) else (some (present ++ [marker]), true)

/-- Removes a marker wherever it occurs. -/
def remove (marker : String) : Option (List String) → Option (List String) × Bool
  | none => (none, false)
  | some markers =>
    if markers.contains marker then
      let left := markers.filter (· != marker)
      (if left.isEmpty then none else some left, true)
    else (some markers, false)

/-- What is done to a marker. -/
inductive Action where
  | add
  | remove
  deriving DecidableEq, Repr

/-- The word for an action in progress. -/
def Action.progress : Action → String
  | .add => "adding"
  | .remove => "removing"

/-- Applies an action to markers. -/
def apply (action : Action) (marker : String) (markers : Option (List String)) :
    Option (List String) × Bool :=
  match action with
  | .add => add marker markers
  | .remove => remove marker markers

/-- Applies an action to the markers of an object's metadata. -/
def applyTo (action : Action) (marker : String) (metadata : Metadata) : Metadata × Bool :=
  let (markers, changed) := apply action marker metadata.finalizers
  ({ metadata with finalizers := markers }, changed)

end Finalizer

end BucketMount
