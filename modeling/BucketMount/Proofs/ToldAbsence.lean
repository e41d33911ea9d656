import BucketMount.Http.Client
import BucketMount.Proofs.LinkGates
import BucketMount.Proofs.MarkerSteps

/-!
# Absence and failure told apart

A server says in more than one way that there is no such object: with a refusal that its body
describes, or with nothing but a status, as a proxy in front of it does. A client asks the code of
the refusal, which it makes up from the status where the body describes none. So what a node
makes of a response depends on its status only, as long as the servers do not contradict
themselves: the refusal that a body describes has the status of the response as its code.

A lookup tells an object that does not exist from everything else that goes wrong
(`Gate.Guarded.toldApart`). A writing does not ask whether the grant exists, so for it a refusal
with the status 404 is a failure like any other, of which only the error can still tell the
absence.
-/

namespace BucketMount

namespace Http

variable {σ α : Type}

/-! ## Responses that fail -/

namespace Response

/-- If the response refuses and its body describes the refusal, the code is the status. -/
def Consistent (response : Response) : Prop :=
  refuses response.status = true → ∀ refusal,
    ServerRefusal.record.format.ofText response.body = .ok refusal → refusal.code = response.status

/-- The response refuses, or its body is not the object. -/
def Failing (format : Format α) (response : Response) : Prop :=
  refuses response.status = true ∨ ∀ value, format.ofText response.body ≠ .ok value

/-- The failure that a client reports of a response. -/
inductive Fails (format : Format α) (response : Response) : ClientFailure → Prop where
  | described (refusal : ServerRefusal) (refused : refuses response.status = true)
      (read : ServerRefusal.record.format.ofText response.body = .ok refusal) :
    Fails format response (.refused refusal)
  | undescribed (refused : refuses response.status = true)
      (unread : ∀ refusal, ServerRefusal.record.format.ofText response.body ≠ .ok refusal) :
    Fails format response (.refused ⟨statusLine response.status, Text.quoted response.body,
      "Failed to parse error data", response.status⟩)
  | undecodable (cause : Json.Refusal) (passed : refuses response.status = false)
      (unread : format.ofText response.body = .error cause) :
    Fails format response (.undecodable cause)

/-- Every response that fails has a failure. -/
theorem Failing.fails {format : Format α} {response : Response}
    (failing : response.Failing format) : ∃ cause, response.Fails format cause := by
  cases refused : refuses response.status with
  | true =>
    cases read : ServerRefusal.record.format.ofText response.body with
    | ok refusal => exact ⟨_, .described refusal refused read⟩
    | error fault => exact ⟨_, .undescribed refused (by simp [read])⟩
  | false =>
    cases read : format.ofText response.body with
    | ok value => simp [Failing, refused, read] at failing
    | error cause => exact ⟨_, .undecodable cause refused read⟩

/-- A client reports the failure of a response. -/
theorem Fails.object_error {format : Format α} {response : Response} {cause : ClientFailure}
    (fails : response.Fails format cause) : (response.object format).1 = .error cause := by
  cases fails with
  | described refusal refused read => simp [object, refused, Response.refusal, read]
  | undescribed refused unread =>
    cases read : ServerRefusal.record.format.ofText response.body with
    | ok refusal => exact absurd read (unread refusal)
    | error fault => simp [object, refused, Response.refusal, read]
  | undecodable fault passed unread => simp [object, passed, unread]

/-- A client reports nothing else. -/
theorem object_error_iff (format : Format α) (response : Response) (cause : ClientFailure) :
    (response.object format).1 = .error cause ↔ response.Fails format cause := by
  constructor
  · intro reported
    have failing : response.Failing format := by
      by_cases refused : refuses response.status = true
      · exact .inl refused
      · refine .inr ?_
        intro value read
        simp [object, refused, read] at reported
    obtain ⟨other, fails⟩ := failing.fails
    have same : cause = other := Except.error.inj (reported.symm.trans fails.object_error)
    rw [same]
    exact fails
  · exact Fails.object_error

/-- The failure of a response is an absence exactly if the status is 404.

The refusal that the body describes has the status as its code, and so has one that is made up.
A body that is not the object is looked at only under another status. -/
theorem Fails.isAbsence_iff {format : Format α} {response : Response} {cause : ClientFailure}
    (fails : response.Fails format cause) (consistent : response.Consistent) :
    cause.isAbsence = true ↔ response.status = 404 := by
  cases fails with
  | described refusal refused read =>
    have code : refusal.code = response.status := consistent refused refusal read
    simp [ClientFailure.isAbsence, code]
  | undescribed refused => simp [ClientFailure.isAbsence]
  | undecodable fault passed =>
    have other : response.status ≠ 404 := by
      intro absent
      simp [absent, refuses] at passed
    simp [ClientFailure.isAbsence, other]

end Response

/-! ## Requests that bring back a response -/

/-- A read of an object brings back a response. -/
def ReadBrings (transport : Transport σ) (address : Address) (state : σ) (response : Response) :
    Prop :=
  ∃ target, targetOf address "" = .ok target ∧
    (transport ⟨.get, target, none⟩ state).1 = .ok response

/-- The writing of a grant brings back a response. -/
def WriteBrings (transport : Transport σ) (access : BucketAccess) (state : σ)
    (response : Response) : Prop :=
  ∃ target, targetOf ⟨.bucketAccess, none, access.metadata.displayName⟩ "?" = .ok target ∧
    (transport ⟨.put, target, some (BucketAccess.kind.format.toText access)⟩ state).1 =
      .ok response

/-- What is sent comes to the object in the response, or to the failure of it. -/
theorem send_result {transport : Transport σ} {format : Format α} {request : Request} {state : σ}
    {response : Response} (answered : (transport request state).1 = .ok response) :
    (send transport format request state).result = (response.object format).1 := by
  obtain ⟨next, reached⟩ : ∃ next, transport request state = (.ok response, next) :=
    ⟨_, Prod.ext answered rfl⟩
  simp only [send, reached]

/-- A read comes to no object exactly if it fails with an absence. -/
theorem optionalResult_none_iff (result : Except ClientFailure α) :
    optionalResult result = .ok none ↔
      ∃ cause, result = .error cause ∧ cause.isAbsence = true := by
  cases result with
  | ok value => simp [optionalResult]
  | error cause => by_cases absent : cause.isAbsence = true <;> simp [optionalResult, absent]

/-- A read fails with every other failure. -/
theorem optionalResult_error_iff (result : Except ClientFailure α) (cause : ClientFailure) :
    optionalResult result = .error cause ↔ result = .error cause ∧ cause.isAbsence = false := by
  cases result with
  | ok value => simp [optionalResult]
  | error other =>
    by_cases absent : other.isAbsence = true
    · simp only [optionalResult, absent, if_true, reduceCtorEq, Except.error.injEq, false_iff,
        not_and, Bool.not_eq_false]
      rintro rfl
      exact absent
    · simp only [optionalResult, absent, Bool.false_eq_true, if_false, Except.error.injEq]
      constructor
      · rintro rfl
        exact ⟨rfl, by simpa using absent⟩
      · exact And.left

section Read

variable {transport : Transport σ} {address : Address} {state : σ} {response : Response}

/-- A read comes to what a client makes of the response. -/
theorem read_result (format : Format α) (brings : ReadBrings transport address state response) :
    (read transport format address state).result =
      optionalResult (response.object format).1 := by
  obtain ⟨target, addressed, answered⟩ := brings
  simp only [read, addressed, send_result answered]

/-- A read comes to no object exactly if the response has the status 404. -/
theorem read_none_iff (format : Format α) (consistent : response.Consistent)
    (brings : ReadBrings transport address state response) :
    (read transport format address state).result = .ok none ↔ response.status = 404 := by
  rw [read_result format brings, optionalResult_none_iff]
  simp only [Response.object_error_iff]
  constructor
  · rintro ⟨cause, fails, absent⟩
    exact (fails.isAbsence_iff consistent).mp absent
  · intro absent
    have refused : refuses response.status = true := by
      rw [absent]
      rfl
    have failing : response.Failing format := .inl refused
    obtain ⟨cause, fails⟩ := failing.fails
    exact ⟨cause, fails, (fails.isAbsence_iff consistent).mpr absent⟩

/-- A read fails exactly with the failure of a response of another status. -/
theorem read_error_iff (format : Format α) (consistent : response.Consistent)
    (brings : ReadBrings transport address state response) (cause : ClientFailure) :
    (read transport format address state).result = .error cause ↔
      response.Fails format cause ∧ response.status ≠ 404 := by
  rw [read_result format brings, optionalResult_error_iff, Response.object_error_iff]
  refine and_congr_right ?_
  intro fails
  rw [← Bool.not_eq_true, fails.isAbsence_iff consistent]

end Read

end Http

/-! ## Lookups and writings over a server -/

/-- How a lookup that brings back a response tells an absence from a failure: `reply` is what the
client answers, and `result` is what the lookup comes to. -/
structure ToldApart {α : Type} (kind : Kind) (shownName : String) (format : Format α)
    (response : Http.Response) (reply : Except ClientFailure (Option α))
    (result : Except NodeError α) : Prop where
  absence : (∃ error, result = .error error ∧ error.isNotFound = true) ↔ response.status = 404
  absent : response.status = 404 →
    reply = .ok none ∧ result = .error (.notFound kind.word shownName)
  failed : response.status ≠ 404 → response.Failing format →
    ∃ cause, response.Fails format cause ∧ reply = .error cause ∧
      result = .error (.lookup kind.word shownName cause) ∧
      (NodeError.lookup kind.word shownName cause).isNotFound = false

namespace Gate

variable {σ α : Type}

/-- A lookup tells an absence exactly if the client answers that there is no object, or fails
with an absence. What the gate complains of is another matter. -/
theorem Verdict.isNotFound_iff {gate : Gate α} {shownName : String}
    {answer : Except ClientFailure (Option α)} {result : Except NodeError α}
    (verdict : gate.Verdict shownName answer result) :
    (∃ error, result = .error error ∧ error.isNotFound = true) ↔
      answer = .ok none ∨ ∃ cause, answer = .error cause ∧ cause.isAbsence = true := by
  cases verdict <;> simp [NodeError.isNotFound, NodeError.source?]

/-- A lookup over a server tells an absence from a failure, whatever its gate demands. -/
theorem Guarded.toldApart {gate : Gate α} {shownName : String} {transport : Http.Transport σ}
    {format : Format α} {address : Address} {operation : Operation σ α}
    (guarded : gate.Guarded shownName (Http.read transport format address) operation) {state : σ}
    {response : Http.Response} (consistent : response.Consistent)
    (brings : Http.ReadBrings transport address state response) :
    ToldApart gate.kind shownName format response (Http.read transport format address state).result
      (operation state).result := by
  have verdict := (guarded state).1
  have none_iff := Http.read_none_iff format consistent brings
  have error_iff := Http.read_error_iff format consistent brings
  refine ⟨?_, ?_, ?_⟩
  · rw [verdict.isNotFound_iff, none_iff]
    constructor
    · rintro (absent | ⟨cause, failed, absent⟩)
      · exact absent
      · obtain ⟨fails, _⟩ := (error_iff cause).mp failed
        exact (fails.isAbsence_iff consistent).mp absent
    · exact Or.inl
  · intro absent
    have answered := none_iff.mpr absent
    rw [answered] at verdict
    exact ⟨answered, verdict.unique .absent⟩
  · intro other failing
    obtain ⟨cause, fails⟩ := failing.fails
    have answered := (error_iff cause).mpr ⟨fails, other⟩
    have present : cause.isAbsence = false := by
      rw [← Bool.not_eq_true, fails.isAbsence_iff consistent]
      exact other
    rw [answered] at verdict
    exact ⟨cause, fails, answered, verdict.unique (.failed cause), present⟩

end Gate

namespace Node

variable {σ : Type}

/-- Over a server, absence is told from failure by the status of the response alone. Each of the
five lookups tells an absence exactly if the status is 404, and is then the error for an object
that was not found, with the lookup's kind and name. Every other response that fails gives the
error of a lookup, which carries the client's failure as it is and tells no absence. A writing of
a marked grant that brings back a response that fails gives the error of an update, which carries
the client's failure as it is, under the status 404 like under any other; exactly under this
status it tells an absence.

Proof: a lookup holds what the client answers against its gate, so `Gate.Guarded.toldApart` is
about all five. A writing passes the client's failure on, for which `Fails.isAbsence_iff` tells
the absence. -/
theorem absence_told_apart (transport : Http.Transport σ) (state : σ) (response : Http.Response)
    (consistent : response.Consistent) :
    let client := Http.client transport
    (∀ name namespaceName,
      Http.ReadBrings transport ⟨.bucketAccessRequest, some namespaceName, name⟩ state response →
      ToldApart .bucketAccessRequest (identifier namespaceName name)
        BucketAccessRequest.kind.format response
        (client.findBucketAccessRequest name namespaceName state).result
        (bucketAccessRequest client name namespaceName state).result) ∧
    (∀ name, Http.ReadBrings transport ⟨.bucketAccess, none, name⟩ state response →
      ToldApart .bucketAccess name BucketAccess.kind.format response
        (client.findBucketAccess name state).result (bucketAccess client name state).result) ∧
    (∀ name namespaceName,
      Http.ReadBrings transport ⟨.bucketRequest, some namespaceName, name⟩ state response →
      ToldApart .bucketRequest (identifier namespaceName name) BucketRequest.kind.format response
        (client.findBucketRequest name namespaceName state).result
        (bucketRequest client name namespaceName state).result) ∧
    (∀ name, Http.ReadBrings transport ⟨.bucket, none, name⟩ state response →
      ToldApart .bucket name Bucket.kind.format response
        (client.findBucket name state).result (bucket client name state).result) ∧
    (∀ name namespaceName,
      Http.ReadBrings transport ⟨.secret, some namespaceName, name⟩ state response →
      ToldApart .secret (identifier namespaceName name) Secret.format response
        (client.findSecret name namespaceName state).result
        (secret client name namespaceName state).result) ∧
    ∀ (toggle : Finalizer.Toggle) (access : BucketAccess),
      let written := marked toggle.action toggle.marker access
      let result := ((mark client toggle.action toggle.marker access).2 state).result
      Http.WriteBrings transport written state response →
      response.Failing BucketAccess.kind.format →
      ∃ cause, response.Fails BucketAccess.kind.format cause ∧
        (client.replaceBucketAccess written state).result = .error cause ∧
        result = .error (.update "bucketAccess" access.metadata.displayName cause) ∧
        ((NodeError.update "bucketAccess" access.metadata.displayName cause).isNotFound = true ↔
          response.status = 404) := by
  intro client
  refine ⟨?_, ?_, ?_, ?_, ?_, ?_⟩
  · intro name namespaceName brings
    exact (request_guarded client name namespaceName).toldApart consistent brings
  · intro name brings
    exact (access_guarded client name).toldApart consistent brings
  · intro name namespaceName brings
    exact (bucketRequest_guarded client name namespaceName).toldApart consistent brings
  · intro name brings
    exact (bucket_guarded client name).toldApart consistent brings
  · intro name namespaceName brings
    exact (secret_guarded client name namespaceName).toldApart consistent brings
  · intro toggle access written result brings failing
    obtain ⟨cause, fails⟩ := failing.fails
    obtain ⟨target, addressed, answered⟩ := brings
    have refused : (client.replaceBucketAccess written state).result = .error cause := by
      simp only [client, Http.client, Http.replace, addressed, Http.send_result answered]
      exact (Http.Response.object_error_iff _ _ _).mpr fails
    refine ⟨cause, fails, refused, ?_, fails.isAbsence_iff consistent⟩
    rw [show result = _ from mark_result client toggle access state, refused]
    rfl

/-- A proxy that does not know the server says so in plain words, under the status 404. A lookup
takes this for an object that does not exist, and a writing for a failure that tells the absence.
A server that does not let the node in describes its refusal, which is then the failure of the
lookup. -/
theorem plain_words_told_apart :
    let unknown : Http.Response := ⟨404, "404 page not found"⟩
    let forbidden : Http.Response :=
      ⟨403, "\x7b\"status\":\"Failure\",\"reason\":\"Forbidden\",\"code\":403\x7d"⟩
    let grant : BucketAccess :=
      ⟨{ Metadata.empty with name := some "grant" }, BucketAccessSpec.record.initial, none⟩
    let answering (response : Http.Response) : Client Unit :=
      Http.client fun _ state => (.ok response, state)
    unknown.Consistent ∧ forbidden.Consistent ∧
      (secret (answering unknown) "keys" "apps" ()).result =
        .error (.notFound "secret" "apps/keys") ∧
      (∃ cause, ((mark (answering unknown) .add "m" grant).2 ()).result =
          .error (.update "bucketAccess" "grant" cause) ∧
        (NodeError.update "bucketAccess" "grant" cause).isNotFound = true) ∧
      (bucket (answering forbidden) "data" ()).result =
        .error (.lookup "bucket" "data" (.refused ⟨"Failure", "", "Forbidden", 403⟩)) := by
  intro unknown forbidden grant answering
  have unread : (ServerRefusal.record.format.ofText unknown.body).isOk = false := by
    decide +kernel
  have read : ServerRefusal.record.format.ofText forbidden.body =
      .ok ⟨"Failure", "", "Forbidden", 403⟩ := Operation.passes_of_toOption (by decide +kernel)
  have unknownConsistent : unknown.Consistent := by
    intro _ refusal described
    rw [described] at unread
    cases unread
  have forbiddenConsistent : forbidden.Consistent := by
    intro _ refusal described
    rw [read] at described
    rw [← Except.ok.inj described]
  obtain ⟨_, _, _, _, secrets, writings⟩ :=
    absence_told_apart (fun _ state => (.ok unknown, state)) () unknown unknownConsistent
  obtain ⟨_, _, _, buckets, _⟩ :=
    absence_told_apart (fun _ state => (.ok forbidden, state)) () forbidden forbiddenConsistent
  have absent := secrets "keys" "apps" ⟨_, rfl, rfl⟩
  have addressed : ∃ target, Http.targetOf ⟨.bucketAccess, none, "grant"⟩ "?" = .ok target :=
    Operation.passes_of_isOk (by decide +kernel)
  obtain ⟨target, addressed⟩ := addressed
  obtain ⟨failure, _, _, refused, told⟩ :=
    writings ⟨.add, "m"⟩ grant ⟨target, addressed, rfl⟩ (.inl rfl)
  have present := buckets "data" ⟨_, rfl, rfl⟩
  obtain ⟨cause, fails, _, failed, _⟩ := present.failed (by decide) (.inl rfl)
  refine ⟨unknownConsistent, forbiddenConsistent, (absent.absent rfl).2,
    ⟨failure, refused, told.mpr rfl⟩, failed.trans ?_⟩
  cases fails with
  | described refusal _ described =>
    rw [read] at described
    rw [← Except.ok.inj described]
    rfl
  | undescribed _ undescribed => exact absurd read (undescribed _)
  | undecodable _ passed => cases passed

end Node

end BucketMount
