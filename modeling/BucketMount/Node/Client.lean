import BucketMount.Failure
import BucketMount.Log.Event
import BucketMount.Resource.Kind

/-!
# Clients

A client looks objects up in the cluster and replaces grants. It may answer
differently at every call: whatever it remembers is its state, which every call
takes and returns. An object that does not exist is no failure. What a client has
to say of a call it logs.

A recorded client does the same and keeps a list of the calls made to it.
-/

namespace BucketMount

/-- What a call comes to: its result, the events it logged, and the state that it
leaves behind. -/
structure Reply (σ α : Type) where
  result : Except ClientFailure α
  events : List Log.Event
  state : σ

/-- A reply of a client that has nothing to say. -/
def Reply.quiet {σ α : Type} (result : Except ClientFailure α) (state : σ) : Reply σ α :=
  ⟨result, [], state⟩

/-- A call to a client over its state. -/
abbrev Call (σ α : Type) := σ → Reply σ α

/-- Access to a cluster. -/
structure Client (σ : Type) where
  findBucketAccessRequest (name namespaceName : String) : Call σ (Option BucketAccessRequest)
  findBucketAccess (name : String) : Call σ (Option BucketAccess)
  findBucketRequest (name namespaceName : String) : Call σ (Option BucketRequest)
  findBucket (name : String) : Call σ (Option Bucket)
  findSecret (name namespaceName : String) : Call σ (Option Secret)
  replaceBucketAccess (access : BucketAccess) : Call σ BucketAccess

/-- A call as a record keeps it. -/
inductive CallRecord where
  | find (address : Address)
  | replace (access : BucketAccess)

namespace Client

variable {σ α : Type}

/-- Adds a record of a call behind the earlier ones. -/
def note (entry : CallRecord) (call : Call σ α) : Call (σ × List CallRecord) α :=
  fun (state, calls) =>
    let reply := call state
    ⟨reply.result, reply.events, reply.state, calls ++ [entry]⟩

/-- The client that also records its calls. -/
def recorded (client : Client σ) : Client (σ × List CallRecord) where
  findBucketAccessRequest name namespaceName :=
    note (.find ⟨.bucketAccessRequest, some namespaceName, name⟩)
      (client.findBucketAccessRequest name namespaceName)
  findBucketAccess name :=
    note (.find ⟨.bucketAccess, none, name⟩) (client.findBucketAccess name)
  findBucketRequest name namespaceName :=
    note (.find ⟨.bucketRequest, some namespaceName, name⟩)
      (client.findBucketRequest name namespaceName)
  findBucket name := note (.find ⟨.bucket, none, name⟩) (client.findBucket name)
  findSecret name namespaceName :=
    note (.find ⟨.secret, some namespaceName, name⟩) (client.findSecret name namespaceName)
  replaceBucketAccess access := note (.replace access) (client.replaceBucketAccess access)

end Client

end BucketMount
