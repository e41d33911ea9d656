import BucketMount.Node.Resolve
import BucketMount.Proofs.OperationSteps

/-!
# What a lookup demands

A lookup of a node demands that the client does not fail, that there is an object,
that the object's flag is set, and that some of its texts are not empty. A gate
says this of one kind of object; `Verdict` says what an answer of the client comes
to at a gate, with the first demand that is not met as the error. An answer has
exactly one verdict (`Verdict.exists`, `Verdict.unique`).

The five lookups are read here as one: each makes its one call and holds the answer
against the gate of its kind (`request_guarded` and its siblings). What the
lookups log is not told by these laws.
-/

namespace BucketMount

/-- The name of the grant in a request for access, empty while nothing is reported. -/
def BucketAccessRequest.accessName (request : BucketAccessRequest) : String :=
  (request.status.map BucketAccessRequestStatus.bucketAccessName).getD ""

/-- The name of the bucket in a request for one, empty while nothing is reported. -/
def BucketRequest.reportedName (request : BucketRequest) : String :=
  (request.status.map BucketRequestStatus.bucketName).getD ""

/-- What a lookup demands of the object that it finds: a flag, with the words for
one that is not set, and texts that may not be empty, in the order in which they
are looked at. -/
structure Gate (α : Type) where
  kind : Kind
  ready : α → Bool
  complaint : String
  fields : List (String × (α → String))

namespace Gate

variable {σ α : Type}

/-- An object meets every demand. -/
def Admits (gate : Gate α) (value : α) : Prop :=
  gate.ready value = true ∧ ∀ field ∈ gate.fields, field.2 value ≠ ""

/-- What an answer of the client comes to. A flag that is not set is told whatever
the texts are; of several empty texts the first one in the gate's order is told. -/
inductive Verdict (gate : Gate α) (shownName : String) :
    Except ClientFailure (Option α) → Except NodeError α → Prop where
  | failed (cause : ClientFailure) :
    Verdict gate shownName (.error cause) (.error (.lookup gate.kind.word shownName cause))
  | absent :
    Verdict gate shownName (.ok none) (.error (.notFound gate.kind.word shownName))
  | unready (value : α) (flag : gate.ready value = false) :
    Verdict gate shownName (.ok (some value))
      (.error (.notReady gate.kind.word shownName gate.complaint))
  | unset (value : α) (before after : List (String × (α → String)))
      (field : String × (α → String)) (flag : gate.ready value = true)
      (order : gate.fields = before ++ field :: after)
      (filled : ∀ earlier ∈ before, earlier.2 value ≠ "") (empty : field.2 value = "") :
    Verdict gate shownName (.ok (some value)) (.error (.fieldUnset gate.kind.word field.1))
  | admitted (value : α) (admits : gate.Admits value) :
    Verdict gate shownName (.ok (some value)) (.ok value)

/-- The first empty text is the same however the texts are divided around it. -/
theorem first_empty_unique (fields before after others rest : List (String × (α → String)))
    (field other : String × (α → String)) (value : α)
    (order : fields = before ++ field :: after) (filled : ∀ earlier ∈ before, earlier.2 value ≠ "")
    (empty : field.2 value = "") (otherOrder : fields = others ++ other :: rest)
    (otherFilled : ∀ earlier ∈ others, earlier.2 value ≠ "") (otherEmpty : other.2 value = "") :
    field = other := by
  have found : fields.find? (fun tested => tested.2 value == "") = some field :=
    List.find?_eq_some_iff_append.mpr ⟨by simp [empty], before, after, order, by simpa using filled⟩
  have otherFound : fields.find? (fun tested => tested.2 value == "") = some other :=
    List.find?_eq_some_iff_append.mpr
      ⟨by simp [otherEmpty], others, rest, otherOrder, by simpa using otherFilled⟩
  exact Option.some.inj (found.symm.trans otherFound)

/-- An object with an empty text is not admitted. -/
theorem not_admitted_of_empty (gate : Gate α) (value : α)
    (before after : List (String × (α → String))) (field : String × (α → String))
    (order : gate.fields = before ++ field :: after) (empty : field.2 value = "") :
    ¬ gate.Admits value := by
  rintro ⟨_, filled⟩
  exact filled field (by simp [order]) empty

/-- An answer has at most one verdict: the five cases exclude one another, and the
first empty text is determined. -/
theorem Verdict.unique {gate : Gate α} {shownName : String}
    {answer : Except ClientFailure (Option α)} {result other : Except NodeError α}
    (verdict : gate.Verdict shownName answer result)
    (otherVerdict : gate.Verdict shownName answer other) : result = other := by
  cases verdict with
  | failed cause => cases otherVerdict; rfl
  | absent => cases otherVerdict; rfl
  | unready value flag =>
    cases otherVerdict with
    | unready => rfl
    | unset _ _ _ _ otherFlag => simp [flag] at otherFlag
    | admitted _ admits => exact absurd admits.1 (by simp [flag])
  | unset value before after field flag order filled empty =>
    cases otherVerdict with
    | unready _ otherFlag => simp [flag] at otherFlag
    | unset _ others rest otherField _ otherOrder otherFilled otherEmpty =>
      rw [first_empty_unique gate.fields before after others rest field otherField value
        order filled empty otherOrder otherFilled otherEmpty]
    | admitted _ admits =>
      exact absurd admits (not_admitted_of_empty gate value before after field order empty)
  | admitted value admits =>
    cases otherVerdict with
    | unready _ flag => exact absurd admits.1 (by simp [flag])
    | unset _ before after field _ order _ empty =>
      exact absurd admits (not_admitted_of_empty gate value before after field order empty)
    | admitted => rfl

/-- A lookup passes exactly if the client answers with an object that the gate admits. -/
theorem Verdict.ok_iff {gate : Gate α} {shownName : String}
    {answer : Except ClientFailure (Option α)} {result : Except NodeError α}
    (verdict : gate.Verdict shownName answer result) (value : α) :
    result = .ok value ↔ answer = .ok (some value) ∧ gate.Admits value := by
  constructor
  · rintro rfl
    cases verdict with
    | admitted _ admits => exact ⟨rfl, admits⟩
  · rintro ⟨rfl, admits⟩
    exact verdict.unique (.admitted value admits)

/-- Whatever a gate complains about, the error names the gate's kind. -/
theorem Verdict.kind_named {gate : Gate α} {shownName : String}
    {answer : Except ClientFailure (Option α)} {error : NodeError}
    (verdict : gate.Verdict shownName answer (.error error)) :
    error.resourceKind? = some gate.kind.word := by
  cases verdict <;> rfl

/-- An operation makes one call and holds the answer against a gate. -/
def Guarded (gate : Gate α) (shownName : String) (call : Call σ (Option α))
    (operation : Operation σ α) : Prop :=
  ∀ state, gate.Verdict shownName (call state).result (operation state).result ∧
    (operation state).state = (call state).state

/-- Goes through texts that may not be empty. -/
def require (gate : Gate α) (value : α) : List (String × (α → String)) → Operation σ α
  | [] => pure value
  | field :: rest => do
    .check (.fieldUnset gate.kind.word field.1) (nonEmpty? (field.2 value)).isSome
    require gate value rest

/-- Looks an object up and holds it against a gate. -/
def look (gate : Gate α) (shownName : String) (call : Call σ (Option α)) : Operation σ α := do
  let found ← Node.lookUp gate.kind shownName call
  .check (.notReady gate.kind.word shownName gate.complaint) (gate.ready found)
  gate.require found gate.fields

/-- Going through the texts calls nobody. -/
theorem require_state (gate : Gate α) (value : α) (fields : List (String × (α → String)))
    (state : σ) : (gate.require value fields state).state = state := by
  induction fields with
  | nil => rfl
  | cons field rest inductionHypothesis =>
    cases set : (nonEmpty? (field.2 value)).isSome with
    | false => simp only [require, set, Operation.check_unmet_bind]
    | true => simpa only [require, set, Operation.check_met_bind] using inductionHypothesis

/-- Exactly the empty text stands for one that is not set. -/
theorem nonEmpty_isSome (text : String) : (nonEmpty? text).isSome = decide (text ≠ "") := by
  by_cases empty : text = "" <;> simp [nonEmpty?, empty]

/-- Going through the texts that are left, with all earlier ones filled, comes to the
verdict on the object. The induction carries the earlier texts along, because the
verdict names a place in the whole list. -/
theorem require_verdict (gate : Gate α) (shownName : String) (value : α)
    (flag : gate.ready value = true) (before rest : List (String × (α → String)))
    (order : gate.fields = before ++ rest) (filled : ∀ earlier ∈ before, earlier.2 value ≠ "")
    (state : σ) :
    gate.Verdict shownName (.ok (some value)) (gate.require value rest state).result := by
  induction rest generalizing before with
  | nil =>
    have all : ∀ field ∈ gate.fields, field.2 value ≠ "" := by simpa [order] using filled
    exact .admitted value ⟨flag, all⟩
  | cons field rest inductionHypothesis =>
    by_cases empty : field.2 value = ""
    · have unset : (nonEmpty? (field.2 value)).isSome = false := by simp [nonEmpty_isSome, empty]
      simp only [require, unset, Operation.check_unmet_bind]
      exact .unset value before rest field flag order filled empty
    · have set : (nonEmpty? (field.2 value)).isSome = true := by simp [nonEmpty_isSome, empty]
      simp only [require, set, Operation.check_met_bind]
      refine inductionHypothesis (before ++ [field]) (by simp [order]) ?_
      intro earlier member
      rcases List.mem_append.mp member with old | last
      · exact filled earlier old
      · rw [List.mem_singleton.mp last]
        exact empty

/-- What looking an object up comes to, from the client's answer. -/
theorem lookUp_result (kind : Kind) (shownName : String) (call : Call σ (Option α)) (state : σ) :
    (Node.lookUp kind shownName call state).result =
      match (call state).result with
      | .error cause => .error (.lookup kind.word shownName cause)
      | .ok none => .error (.notFound kind.word shownName)
      | .ok (some value) => .ok value := by
  have called := Operation.call_result (.lookup kind.word shownName) call state
  rcases answer : (call state).result with cause | found
  · rw [answer] at called
    rw [Node.lookUp, Operation.bind_failed _ _ _ _ called]
  · rw [answer] at called
    rw [Node.lookUp, Operation.bind_passed _ _ _ _ called]
    cases found <;> rfl

/-- Looking an object up calls the client once. -/
theorem lookUp_state (kind : Kind) (shownName : String) (call : Call σ (Option α)) (state : σ) :
    (Node.lookUp kind shownName call state).state = (call state).state := by
  have called := Operation.call_result (.lookup kind.word shownName) call state
  rcases answer : (call state).result with cause | found
  · rw [answer] at called
    rw [Node.lookUp, Operation.bind_failed _ _ _ _ called, Operation.call_state]
  · rw [answer] at called
    rw [Node.lookUp, Operation.bind_passed _ _ _ _ called, Operation.call_state]
    cases found <;> rfl

/-- Looking an object up at a gate makes one call and comes to the verdict on its
answer.

Without an object the lookup itself is the verdict. With one, the flag decides
first, and behind a set flag the texts do. -/
theorem look_guarded (gate : Gate α) (shownName : String) (call : Call σ (Option α)) :
    gate.Guarded shownName call (gate.look shownName call) := by
  intro state
  have result := lookUp_result gate.kind shownName call state
  have left := lookUp_state gate.kind shownName call state
  rcases answer : (call state).result with cause | (_ | value)
  · rw [answer] at result
    rw [look, Operation.bind_failed _ _ _ _ result]
    exact ⟨.failed cause, left⟩
  · rw [answer] at result
    rw [look, Operation.bind_failed _ _ _ _ result]
    exact ⟨.absent, left⟩
  · rw [answer] at result
    rw [look, Operation.bind_passed _ _ _ _ result]
    cases flag : gate.ready value with
    | false =>
      simp only [Operation.check_unmet_bind]
      exact ⟨.unready value flag, left⟩
    | true =>
      simp only [Operation.check_met_bind, require_state]
      exact ⟨gate.require_verdict shownName value flag [] gate.fields rfl (by simp) _, left⟩

/-- Every answer of the client comes to something: it is what looking the object up
comes to. -/
theorem Verdict.exists (gate : Gate α) (shownName : String)
    (answer : Except ClientFailure (Option α)) : ∃ result, gate.Verdict shownName answer result :=
  ⟨_, (gate.look_guarded shownName (Reply.quiet answer) ()).1⟩

/-- Where a gate demands nothing of an object, looking it up is the whole lookup. -/
theorem lookUp_guarded (gate : Gate α) (shownName : String) (call : Call σ (Option α))
    (undemanding : ∀ value, gate.Admits value) :
    gate.Guarded shownName call (Node.lookUp gate.kind shownName call) := by
  intro state
  refine ⟨?_, lookUp_state gate.kind shownName call state⟩
  rw [lookUp_result]
  rcases (call state).result with cause | (_ | value)
  · exact .failed cause
  · exact .absent
  · exact .admitted value (undemanding value)

/-- Neither the announcement of a lookup nor its span changes what it comes to. -/
theorem announced_guarded (gate : Gate α) (shownName field : String) (span : Log.Span)
    (call : Call σ (Option α)) (operation : Operation σ α)
    (guarded : gate.Guarded shownName call operation) :
    gate.Guarded shownName call (Operation.inside span do
      Node.announce gate.kind field shownName
      operation) :=
  guarded

end Gate

namespace Node

variable {σ : Type}

/-- The gate of requests for access. -/
def requestGate : Gate BucketAccessRequest where
  kind := .bucketAccessRequest
  ready request := request.status.any BucketAccessRequestStatus.accessGranted
  complaint := "does not grant access"
  fields := [("spec.bucketRequestName", fun request => request.spec.bucketRequestName),
    ("status.bucketAccessName", BucketAccessRequest.accessName)]

/-- The gate of grants. -/
def accessGate : Gate BucketAccess where
  kind := .bucketAccess
  ready access := access.status.any BucketAccessStatus.accessGranted
  complaint := "does not grant access"
  fields := [("spec.mintedSecretName", fun access => access.spec.mintedSecretName)]

/-- The gate of requests for buckets. -/
def bucketRequestGate : Gate BucketRequest where
  kind := .bucketRequest
  ready request := request.status.any BucketRequestStatus.bucketAvailable
  complaint := "is not available yet"
  fields := [("status.bucketName", BucketRequest.reportedName)]

/-- The gate of buckets. -/
def bucketGate : Gate Bucket where
  kind := .bucket
  ready bucket := bucket.status.any BucketStatus.bucketAvailable
  complaint := "is not available yet"
  fields := []

/-- The gate of secrets. A secret has no flag; nothing is ever complained of it. -/
def secretGate : Gate Secret where
  kind := .secret
  ready _ := true
  complaint := ""
  fields := []

/-- The name of a grant reads as unset exactly where it is empty. -/
theorem accessName_nonEmpty (request : BucketAccessRequest) :
    request.bucketAccessName? = nonEmpty? request.accessName := by
  cases reported : request.status <;>
    simp [BucketAccessRequest.bucketAccessName?, BucketAccessRequest.accessName, reported,
      nonEmpty?]

/-- The reported name of a bucket reads as unset exactly where it is empty. -/
theorem reportedName_nonEmpty (request : BucketRequest) :
    request.bucketName? = nonEmpty? request.reportedName := by
  cases reported : request.status <;>
    simp [BucketRequest.bucketName?, BucketRequest.reportedName, reported, nonEmpty?]

/-- The lookup of a request for access is guarded by its gate. -/
theorem request_guarded (client : Client σ) (name namespaceName : String) :
    requestGate.Guarded (identifier namespaceName name)
      (client.findBucketAccessRequest name namespaceName)
      (bucketAccessRequest client name namespaceName) := by
  unfold bucketAccessRequest
  simp only [accessName_nonEmpty]
  exact requestGate.announced_guarded _ _ _ _ _ (requestGate.look_guarded _ _)

/-- The lookup of a grant is guarded by its gate. -/
theorem access_guarded (client : Client σ) (name : String) :
    accessGate.Guarded name (client.findBucketAccess name) (bucketAccess client name) :=
  accessGate.announced_guarded _ _ _ _ _ (accessGate.look_guarded _ _)

/-- The lookup of a request for a bucket is guarded by its gate. -/
theorem bucketRequest_guarded (client : Client σ) (name namespaceName : String) :
    bucketRequestGate.Guarded (identifier namespaceName name)
      (client.findBucketRequest name namespaceName)
      (bucketRequest client name namespaceName) := by
  unfold bucketRequest
  simp only [reportedName_nonEmpty]
  exact bucketRequestGate.announced_guarded _ _ _ _ _ (bucketRequestGate.look_guarded _ _)

/-- The lookup of a bucket is guarded by its gate. -/
theorem bucket_guarded (client : Client σ) (name : String) :
    bucketGate.Guarded name (client.findBucket name) (bucket client name) :=
  bucketGate.announced_guarded _ _ _ _ _ (bucketGate.look_guarded _ _)

/-- The lookup of a secret is guarded by its gate. -/
theorem secret_guarded (client : Client σ) (name namespaceName : String) :
    secretGate.Guarded (identifier namespaceName name) (client.findSecret name namespaceName)
      (secret client name namespaceName) :=
  secretGate.announced_guarded _ _ _ _ _
    (secretGate.lookUp_guarded _ _ fun _ => ⟨rfl, by simp [secretGate]⟩)

end Node

end BucketMount
