import BucketMount.Failure
import BucketMount.Resource.Kind

/-!
# A cluster

A cluster keeps the texts of its objects under their paths. It may be made to
fail: each fault waits for the next access of one sort and answers it in place of
the object. Faults that wait for the same sort are met in the order in which they
were planned.
-/

namespace BucketMount

/-- A sort of access that a fault can wait for. -/
inductive Access where
  | find (kind : Kind)
  | update
  deriving DecidableEq, Repr

/-- A planned failure: the refusal, and the body of a response if it is another
text than the refusal's own. -/
structure Fault where
  access : Access
  refusal : ServerRefusal
  body : Option String
  deriving DecidableEq, Repr

/-- The objects of a cluster and the faults that wait. -/
structure Cluster where
  objects : Dictionary String
  faults : List Fault

namespace Cluster

/-- The cluster without objects and faults. -/
def empty : Cluster := ⟨.empty, []⟩

/-- Stores a text under a path. -/
def put (cluster : Cluster) (path text : String) : Cluster :=
  { cluster with objects := cluster.objects.insert path text }

/-- Removes what is stored under a path. -/
def delete (cluster : Cluster) (path : String) : Cluster :=
  { cluster with objects := cluster.objects.erase path }

/-- The text stored under a path. -/
def get? (cluster : Cluster) (path : String) : Option String := cluster.objects.get? path

/-- A text that was stored is found under its path, and other paths lead to what they did. -/
theorem get?_put (cluster : Cluster) (path other text : String) :
    (cluster.put path text).get? other = if path = other then some text else cluster.get? other :=
  cluster.objects.get?_insert path other text

/-- Plans a fault behind the others. -/
def plan (cluster : Cluster) (fault : Fault) : Cluster :=
  { cluster with faults := cluster.faults ++ [fault] }

/-- Takes the first of the faults that wait for an access. -/
def takeFault (access : Access) : List Fault → Option Fault × List Fault
  | [] => (none, [])
  | fault :: rest =>
    if fault.access = access then (some fault, rest)
    else
      let (taken, left) := takeFault access rest
      (taken, fault :: left)

/-- Meets the fault that waits for an access, if any. -/
def meet (cluster : Cluster) (access : Access) : Option Fault × Cluster :=
  let (fault, left) := takeFault access cluster.faults
  (fault, { cluster with faults := left })

end Cluster

end BucketMount
