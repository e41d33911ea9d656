import BucketMount.Proofs.LinkGates

/-!
# What the walk from a request leads to

The chain of a request has four links: the request for access, the grant, the
bucket and the secret. Which object a later link looks up is told by the answers to
earlier ones, and the client may answer differently at every call.

`resolve_ok_iff` says that the walk leads to a bucket, a grant and a secret exactly
when the four answers are objects that are in force and name one another; the result
holds these very objects. What becomes of a walk that leads nowhere is not told here.
-/

namespace BucketMount.Node

variable {σ α : Type}

/-! ## What the gates admit -/

/-- A request for access is admitted when it is granted and names both the request
for the bucket and the grant. -/
theorem request_admitted_iff (request : BucketAccessRequest) :
    requestGate.Admits request ↔
      ∃ status, request.status = some status ∧ status.accessGranted = true ∧
        request.spec.bucketRequestName ≠ "" ∧ status.bucketAccessName ≠ "" := by
  cases reported : request.status <;>
    simp [Gate.Admits, requestGate, BucketAccessRequest.accessName, reported]

/-- A grant is admitted when it is in force and names the secret. -/
theorem access_admitted_iff (access : BucketAccess) :
    accessGate.Admits access ↔
      (∃ status, access.status = some status ∧ status.accessGranted = true) ∧
        access.spec.mintedSecretName ≠ "" := by
  cases reported : access.status <;> simp [Gate.Admits, accessGate, reported]

/-- A bucket is admitted when it is available. -/
theorem bucket_admitted_iff (bucket : Bucket) :
    bucketGate.Admits bucket ↔
      ∃ status, bucket.status = some status ∧ status.bucketAvailable = true := by
  cases reported : bucket.status <;> simp [Gate.Admits, bucketGate, reported]

/-- Every secret is admitted. -/
theorem secret_admitted (secret : Secret) : secretGate.Admits secret :=
  ⟨rfl, by simp [secretGate]⟩

/-- A guarded lookup passes exactly if the client answers with an object that is
admitted. -/
theorem guarded_ok_iff {gate : Gate α} {shownName : String} {call : Call σ (Option α)}
    {operation : Operation σ α} (guarded : gate.Guarded shownName call operation) (state : σ)
    (value : α) :
    (operation state).result = .ok value ↔
      (call state).result = .ok (some value) ∧ gate.Admits value :=
  (guarded state).1.ok_iff value

/-- A text that may be unset is the empty text where it is. -/
theorem nonEmpty_getD (text : String) : (nonEmpty? text).getD "" = text := by
  by_cases empty : text = "" <;> simp [nonEmpty?, empty]

/-- The walk goes on to the grant that the request names. -/
theorem accessName_read (request : BucketAccessRequest) :
    request.bucketAccessName?.getD "" = request.accessName := by
  rw [accessName_nonEmpty, nonEmpty_getD]

/-- The walk goes on to the bucket that the grant names. -/
theorem bucketName_read (access : BucketAccess) :
    access.bucketName?.getD "" = access.spec.bucketName := nonEmpty_getD _

/-- The walk goes on to the secret that the grant names. -/
theorem mintedSecretName_read (access : BucketAccess) :
    access.mintedSecretName?.getD "" = access.spec.mintedSecretName := nonEmpty_getD _

/-- Once a status is reported it tells the name of the grant. -/
theorem accessName_reported {request : BucketAccessRequest} {status : BucketAccessRequestStatus}
    (reported : request.status = some status) : request.accessName = status.bucketAccessName := by
  simp [BucketAccessRequest.accessName, reported]

/-! ## What the walk leads to -/

/-- The walk leads to a bucket, a grant and a secret exactly when the client answers
the four lookups with a granted request that names a grant, this grant in force, the
bucket it names, available, and the secret it names in the caller's namespace. Each
answer is the one that the client gives from where the lookup before left it.

Proof: a walk passes when each of its steps passes from the state before it, a
guarded step passes on admitted answers only, and its state is the client's. -/
theorem resolve_ok_iff (client : Client σ) (name namespaceName : String) (state : σ)
    (resolved : Resolved) :
    (resolve client name namespaceName state).result = .ok resolved ↔
      ∃ request status,
        let first := client.findBucketAccessRequest name namespaceName state
        let second := client.findBucketAccess status.bucketAccessName first.state
        let third := client.findBucket resolved.access.spec.bucketName second.state
        let fourth :=
          client.findSecret resolved.access.spec.mintedSecretName namespaceName third.state
        (first.result = .ok (some request) ∧ request.status = some status ∧
          status.accessGranted = true ∧ request.spec.bucketRequestName ≠ "" ∧
          status.bucketAccessName ≠ "") ∧
        (second.result = .ok (some resolved.access) ∧
          (∃ granted, resolved.access.status = some granted ∧ granted.accessGranted = true) ∧
          resolved.access.spec.mintedSecretName ≠ "") ∧
        (third.result = .ok (some resolved.bucket) ∧
          ∃ reported, resolved.bucket.status = some reported ∧
            reported.bucketAvailable = true) ∧
        fourth.result = .ok (some resolved.secret) := by
  simp only [resolve, Operation.bind_ok_iff, guarded_ok_iff (request_guarded client _ _),
    guarded_ok_iff (access_guarded client _), guarded_ok_iff (bucket_guarded client _),
    guarded_ok_iff (secret_guarded client _ _), (request_guarded client _ _ _).2,
    (access_guarded client _ _).2, (bucket_guarded client _ _).2, accessName_read,
    bucketName_read, mintedSecretName_read, request_admitted_iff, access_admitted_iff,
    bucket_admitted_iff, secret_admitted, Operation.pure_run]
  constructor
  · rintro ⟨request, ⟨answered, status, reported, demands⟩, access, granted, bucket, available,
      secret, ⟨found, _⟩, same⟩
    obtain rfl : ⟨bucket, access, secret⟩ = resolved := Except.ok.inj same
    rw [accessName_reported reported] at granted available found
    exact ⟨request, status, ⟨answered, reported, demands⟩, granted, available, found⟩
  · rintro ⟨request, status, ⟨answered, reported, demands⟩, granted, available, found⟩
    rw [← accessName_reported reported] at granted available found
    exact ⟨request, ⟨answered, status, reported, demands⟩, resolved.access, granted,
      resolved.bucket, available, resolved.secret, ⟨found, trivial⟩, rfl⟩

end BucketMount.Node
