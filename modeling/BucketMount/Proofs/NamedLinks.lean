import BucketMount.Proofs.WalkedLinks

/-!
# Lookups without a name

The walk from a request goes on to the object that a text of the link before names, or to the
one without a name where that text is empty. For the grant and for the secret the gate in
front refuses the empty text and says which field it is. The bucket's name is asked for by no
gate, so an admitted grant that names no bucket has the bucket with the empty name looked up.

`unnamed_only_bucket` says that this is the only lookup behind the first one that has no name,
and when it is made.
-/

namespace BucketMount.Node

variable {σ : Type}

/-! ## Which calls are made -/

/-- A call is that of a link behind nothing but links that pass. -/
def Reaches (call : CallRecord) : List Link → Prop
  | [] => False
  | link :: rest => call = link.record ∨ link.Passes ∧ Reaches call rest

namespace Ends

variable {link : Link} {links rest : List Link} {made : List CallRecord}
  {result : Except NodeError Unit}

/-- A walk makes the calls that can be reached, and no others. -/
theorem mem_made_iff (ends : Ends links made result) (call : CallRecord) :
    call ∈ made ↔ Reaches call links := by
  induction ends with
  | through => simp [Reaches]
  | refused link rest error refuses => simp [Reaches, Link.not_passes_of_refuses refuses]
  | passed link rest made result passes later inductionHypothesis =>
    simp [Reaches, passes, inductionHypothesis]

/-- The calls behind the first one are those that can be reached behind the first link, if this
passes. -/
theorem behind_first (ends : Ends (link :: rest) made result) :
    ∃ later, made = link.record :: later ∧
      ∀ call, call ∈ later ↔ link.Passes ∧ Reaches call rest := by
  cases ends with
  | refused _ _ error refuses =>
    exact ⟨[], rfl, fun call => by simp [Link.not_passes_of_refuses refuses]⟩
  | passed _ _ later _ passes ends =>
    exact ⟨later, rfl, fun call => by simp [passes, ends.mem_made_iff]⟩

/-- A walk ends at a first link that refuses. -/
theorem at_refusal (ends : Ends (link :: rest) made result) {error : NodeError}
    (refuses : link.Refuses error) : made = [link.record] ∧ result = .error error := by
  cases ends with
  | refused _ _ own ownRefuses => exact ⟨rfl, by rw [Link.refuses_unique ownRefuses refuses]⟩
  | passed _ _ _ _ passes => exact absurd passes (Link.not_passes_of_refuses refuses)

/-- A walk goes on behind a first link that passes. -/
theorem at_passing (ends : Ends (link :: rest) made result) (passes : link.Passes) :
    ∃ later, made = link.record :: later ∧ Ends rest later result := by
  cases ends with
  | refused _ _ _ refuses => exact absurd passes (Link.not_passes_of_refuses refuses)
  | passed _ _ later _ _ ends => exact ⟨later, rfl, ends⟩

end Ends

/-! ## Names that are empty -/

/-- A request that is granted but names no grant is refused for that field. -/
theorem unnamed_grant_refused {request : BucketAccessRequest} {status : BucketAccessRequestStatus}
    (reported : request.status = some status) (granted : status.accessGranted = true)
    (bucketRequest : request.spec.bucketRequestName ≠ "") (unnamed : status.bucketAccessName = "")
    (shownName : String) :
    requestGate.Verdict shownName (.ok (some request))
      (.error (.fieldUnset "bucketAccessRequest" "status.bucketAccessName")) := by
  refine .unset request
    [("spec.bucketRequestName", fun request => request.spec.bucketRequestName)] []
    ("status.bucketAccessName", BucketAccessRequest.accessName) ?_ rfl ?_ ?_
  · simp [requestGate, reported, granted]
  · simpa using bucketRequest
  · simpa [BucketAccessRequest.accessName, reported] using unnamed

/-- A grant that is in force but names no secret is refused for that field. -/
theorem unnamed_secret_refused {access : BucketAccess} {status : BucketAccessStatus}
    (reported : access.status = some status) (granted : status.accessGranted = true)
    (unnamed : access.spec.mintedSecretName = "") (shownName : String) :
    accessGate.Verdict shownName (.ok (some access))
      (.error (.fieldUnset "bucketAccess" "spec.mintedSecretName")) := by
  refine .unset access [] []
    ("spec.mintedSecretName", fun access => access.spec.mintedSecretName) ?_ rfl (by simp) unnamed
  simp [accessGate, reported, granted]

/-- The calls that can be reached behind the request: that for the grant it names, and behind an
admitted grant those for the bucket and, if this is admitted, for the secret that it names. -/
theorem reaches_behind_request (client : Client σ) (name namespaceName : String) (state : σ)
    (call : CallRecord) :
    let first := client.findBucketAccessRequest name namespaceName state
    let address : Address := ⟨.bucketAccessRequest, some namespaceName, name⟩
    (Link.mk BucketAccessRequest address requestGate first.result).Passes ∧
        Reaches call (chain client name namespaceName state).tail ↔
      ∃ request, first.result = .ok (some request) ∧ requestGate.Admits request ∧
        let second := client.findBucketAccess request.accessName first.state
        (call = .find ⟨.bucketAccess, none, request.accessName⟩ ∨
          ∃ access, second.result = .ok (some access) ∧ accessGate.Admits access ∧
            let third := client.findBucket access.spec.bucketName second.state
            (call = .find ⟨.bucket, none, access.spec.bucketName⟩ ∨
              (∃ bucket, third.result = .ok (some bucket) ∧ bucketGate.Admits bucket) ∧
                call = .find ⟨.secret, some namespaceName, access.spec.mintedSecretName⟩)) := by
  intro first address
  simp only [Link.Passes, chain, List.tail_cons, Reaches, Link.record, and_false, or_false]
  constructor
  · rintro ⟨⟨request, answered, admits⟩, reaches⟩
    refine ⟨request, answered, admits, ?_⟩
    simp only [first] at answered
    simp only [answered, textIn] at reaches
    refine reaches.imp_right ?_
    rintro ⟨⟨access, granted, admitted⟩, reaches⟩
    simp only [granted] at reaches
    exact ⟨access, granted, admitted, reaches⟩
  · rintro ⟨request, answered, admits, reaches⟩
    refine ⟨⟨request, answered, admits⟩, ?_⟩
    simp only [first] at answered
    simp only [answered, textIn]
    refine reaches.imp_right ?_
    rintro ⟨access, granted, admitted, reaches⟩
    refine ⟨⟨access, granted, admitted⟩, ?_⟩
    simp only [first] at granted
    simpa only [granted] using reaches

/-- Behind the first lookup, the only one that the walk makes without a name is that of the
bucket of an admitted grant that names none. An admitted request always names a grant and an
admitted grant a secret: where these names are empty but all that is asked for before them is
there, the walk ends with an error that says which field is not set, and makes no further call.

Proof: the walk makes the calls that can be reached along its chain. A link is reached behind
links that pass only, and the gates of these admit no empty text in the fields they ask for,
which are all the walk goes by but the bucket's name. -/
theorem unnamed_only_bucket (client : Client σ) (name namespaceName : String) (state : σ) :
    let first := client.findBucketAccessRequest name namespaceName state
    let second (request : BucketAccessRequest) :=
      client.findBucketAccess request.accessName first.state
    let outcome := resolve client.recorded name namespaceName (state, [])
    outcome.result = (resolve client name namespaceName state).result ∧
    ∃ later,
      outcome.state.2 = .find ⟨.bucketAccessRequest, some namespaceName, name⟩ :: later ∧
      (∀ address, .find address ∈ later → address.name = "" → address = ⟨.bucket, none, ""⟩) ∧
      (.find ⟨.bucket, none, ""⟩ ∈ later ↔ ∃ request access,
        first.result = .ok (some request) ∧ requestGate.Admits request ∧
        (second request).result = .ok (some access) ∧ accessGate.Admits access ∧
        access.spec.bucketName = "") ∧
      (∀ request status, first.result = .ok (some request) → request.status = some status →
        status.accessGranted = true → request.spec.bucketRequestName ≠ "" →
        status.bucketAccessName = "" →
        outcome.result = .error (.fieldUnset "bucketAccessRequest" "status.bucketAccessName") ∧
        later = []) ∧
      ∀ request access status, first.result = .ok (some request) → requestGate.Admits request →
        (second request).result = .ok (some access) → access.status = some status →
        status.accessGranted = true → access.spec.mintedSecretName = "" →
        outcome.result = .error (.fieldUnset "bucketAccess" "spec.mintedSecretName") ∧
        later = [.find ⟨.bucketAccess, none, request.accessName⟩] := by
  intro first second outcome
  obtain ⟨made, calls, ends⟩ := resolve_follows client name namespaceName state []
  obtain ⟨later, split, reached⟩ := ends.behind_first
  have called (call : CallRecord) :=
    (reached call).trans (reaches_behind_request client name namespaceName state call)
  refine ⟨(resolve_mirrored client name namespaceName state []).1, later,
    calls.trans (congrArg _ split), fun address member empty => ?_, ⟨fun member => ?_, ?_⟩,
    fun request status answered reported granted bucketRequest unnamed => ?_,
    fun request access status answered admits found reported granted unnamed => ?_⟩
  · obtain ⟨request, _, admits, same | ⟨access, _, admitted, same | ⟨_, same⟩⟩⟩ :=
      (called _).mp member
    · obtain rfl := CallRecord.find.inj same
      exact absurd empty (admits.2 ("status.bucketAccessName", BucketAccessRequest.accessName)
        (by simp [requestGate]))
    · obtain rfl := CallRecord.find.inj same
      rw [show access.spec.bucketName = "" from empty]
    · obtain rfl := CallRecord.find.inj same
      exact absurd empty (admitted.2 _ (.head _))
  · obtain ⟨request, answered, admits, same | ⟨access, found, admitted, same | ⟨_, same⟩⟩⟩ :=
      (called _).mp member
    · cases same
    · refine ⟨request, access, answered, admits, found, admitted, ?_⟩
      exact (congrArg Address.name (CallRecord.find.inj same)).symm
    · cases same
  · rintro ⟨request, access, answered, admits, found, admitted, unnamed⟩
    refine (called _).mpr ⟨request, answered, admits, .inr ⟨access, found, admitted, .inl ?_⟩⟩
    rw [unnamed]
  · have refuses : requestGate.Verdict (identifier namespaceName name) first.result
        (.error (.fieldUnset "bucketAccessRequest" "status.bucketAccessName")) := by
      rw [answered]
      exact unnamed_grant_refused reported granted bucketRequest unnamed _
    obtain ⟨only, failed⟩ := ends.at_refusal refuses
    rw [split] at only
    exact ⟨(forgotten_error_iff _ _).mp failed, (List.cons.inj only).2⟩
  · have named : textIn BucketAccessRequest.accessName first.result = request.accessName := by
      rw [answered]
      rfl
    obtain ⟨behind, order, further⟩ := ends.at_passing ⟨request, answered, admits⟩
    have refuses : accessGate.Verdict (textIn BucketAccessRequest.accessName first.result)
        (client.findBucketAccess (textIn BucketAccessRequest.accessName first.result)
          first.state).result
        (.error (.fieldUnset "bucketAccess" "spec.mintedSecretName")) := by
      rw [named, found]
      exact unnamed_secret_refused reported granted unnamed _
    obtain ⟨only, failed⟩ := further.at_refusal refuses
    refine ⟨(forgotten_error_iff _ _).mp failed, ?_⟩
    rw [(List.cons.inj (split.symm.trans order)).2, only, ← named]
    rfl

/-- A client that grants every request, by a grant that names a secret but no bucket. -/
def unnamingClient : Client Unit :=
  let request : BucketAccessRequest := ⟨.empty, ⟨"", "files", ""⟩, some ⟨true, "grant"⟩⟩
  let access : BucketAccess := ⟨.empty,
    { BucketAccessSpec.record.initial with mintedSecretName := "keys" }, some ⟨true⟩⟩
  { findBucketAccessRequest := fun _ _ => .quiet (.ok (some request))
    findBucketAccess := fun _ => .quiet (.ok (some access))
    findBucketRequest := fun _ _ => .quiet (.ok none)
    findBucket := fun _ => .quiet (.ok none)
    findSecret := fun _ _ => .quiet (.ok none)
    replaceBucketAccess := fun access => .quiet (.ok access) }

/-- The bucket without a name is looked up, and nobody says that its name is not set. -/
theorem unnamed_bucket_looked_up :
    let outcome := resolve unnamingClient.recorded "uploads" "apps" ((), [])
    outcome.state.2 = [.find ⟨.bucketAccessRequest, some "apps", "uploads"⟩,
      .find ⟨.bucketAccess, none, "grant"⟩, .find ⟨.bucket, none, ""⟩] ∧
    outcome.result = .error (.notFound "bucket" "") := ⟨rfl, rfl⟩

end BucketMount.Node
