import BucketMount.Node.Resolve
import BucketMount.Proofs.OperationSteps
import Mathlib.Data.Option.Basic

/-!
# Runs that cannot be told apart

Two runs are alike if they log the same, fail alike, and come to values that are the same
as far as anybody is to see. The states of their clients may differ in what nobody is to
see; how they are related is left open, and so is which values are taken for the same.

Two calls are alike if they are from all related states, and leave related states behind.
They stay alike when a plan makes some of them fail that sees the calls so far and nothing
else. Steps that are alike make operations that are alike, so over two clients whose calls
are alike the walk from a request is (`resolve_alike`). The secrets that it finds may differ
in their contents and in nothing else.
-/

namespace BucketMount

variable {σ α β ε : Type}

/-- Two results are alike: they are the same failure, or values that are taken for the
same. -/
inductive AlikeResults (same : α → α → Prop) : Except ε α → Except ε α → Prop where
  | error (failure : ε) : AlikeResults same (.error failure) (.error failure)
  | ok {left right : α} (values : same left right) : AlikeResults same (.ok left) (.ok right)

/-- Results that are alike up to nothing are the same. -/
theorem alikeResults_eq {left right : Except ε α} (alike : AlikeResults (· = ·) left right) :
    left = right := by
  cases alike with
  | error failure => rfl
  | ok values => rw [values]

/-- Every result is alike to itself, up to nothing. -/
theorem alikeResults_refl (result : Except ε α) : AlikeResults (· = ·) result result := by
  cases result with
  | error failure => exact .error failure
  | ok value => exact .ok rfl

/-- Results that are alike have passed if something else is seen in one than in the other. -/
theorem alikeResults_passed {same : α → α → Prop} {left right : Except ε α} {seen : α → β}
    (alike : AlikeResults same left right)
    (differ : left.toOption.map seen ≠ right.toOption.map seen) :
    ∃ value other, left = .ok value ∧ right = .ok other ∧ same value other ∧
      seen value ≠ seen other := by
  cases alike with
  | error failure => exact absurd rfl differ
  | @ok value other values =>
    refine ⟨value, other, rfl, rfl, values, fun equal => differ ?_⟩
    exact congrArg some equal

/-- Two calls are alike from all related states. -/
def AlikeCalls (related : σ → σ → Prop) (same : α → α → Prop) (left right : Call σ α) : Prop :=
  ∀ state other, related state other →
    AlikeResults same (left state).result (right other).result ∧
      (left state).events = (right other).events ∧ related (left state).state (right other).state

/-- Two operations are alike from all related states. -/
def AlikeOperations (related : σ → σ → Prop) (same : α → α → Prop)
    (left right : Operation σ α) : Prop :=
  ∀ state other, related state other →
    AlikeResults same (left state).result (right other).result ∧
      (left state).events = (right other).events ∧ related (left state).state (right other).state

/-- Two secrets that differ in their contents at most. -/
structure Secret.Alike (left right : Secret) : Prop where
  metadata : left.metadata = right.metadata
  type : left.type = right.type
  isImmutable : left.isImmutable = right.isImmutable

/-- Two resolved requests that differ in the contents of their secrets at most. -/
structure Resolved.Alike (left right : Resolved) : Prop where
  bucket : left.bucket = right.bucket
  access : left.access = right.access
  secret : left.secret.Alike right.secret

/-- Two clients whose calls are alike, up to the contents of secrets. -/
structure AlikeClients (related : σ → σ → Prop) (left right : Client σ) : Prop where
  findBucketAccessRequest (name namespaceName : String) :
    AlikeCalls related (Option.Rel (· = ·)) (left.findBucketAccessRequest name namespaceName)
      (right.findBucketAccessRequest name namespaceName)
  findBucketAccess (name : String) :
    AlikeCalls related (Option.Rel (· = ·)) (left.findBucketAccess name)
      (right.findBucketAccess name)
  findBucketRequest (name namespaceName : String) :
    AlikeCalls related (Option.Rel (· = ·)) (left.findBucketRequest name namespaceName)
      (right.findBucketRequest name namespaceName)
  findBucket (name : String) :
    AlikeCalls related (Option.Rel (· = ·)) (left.findBucket name) (right.findBucket name)
  findSecret (name namespaceName : String) :
    AlikeCalls related (Option.Rel Secret.Alike) (left.findSecret name namespaceName)
      (right.findSecret name namespaceName)
  replaceBucketAccess (access : BucketAccess) :
    AlikeCalls related (· = ·) (left.replaceBucketAccess access) (right.replaceBucketAccess access)

section Steps

variable {related : σ → σ → Prop} {same : α → α → Prop} {sameNext : β → β → Prop}

/-- Values that are taken for the same are passed on alike. -/
theorem alike_pure {left right : α} (values : same left right) :
    AlikeOperations related same (pure left) (pure right) :=
  fun _ _ states => ⟨.ok values, rfl, states⟩

/-- Two refusals for one reason are alike. -/
theorem alike_refuse (failure : NodeError) :
    AlikeOperations related same (.refuse failure) (.refuse failure) :=
  fun _ _ states => ⟨.error failure, rfl, states⟩

/-- The same log entry twice is alike. -/
theorem alike_log (event : Log.Event) :
    AlikeOperations related (· = ·) (.log event) (.log event) :=
  fun _ _ states => ⟨.ok rfl, rfl, states⟩

/-- The same condition twice is alike. -/
theorem alike_check (failure : NodeError) (condition : Bool) :
    AlikeOperations related (· = ·) (.check failure condition) (.check failure condition) := by
  cases condition with
  | false => exact alike_refuse failure
  | true => exact alike_pure rfl

/-- Values that may be missing are demanded alike. -/
theorem alike_demand (failure : NodeError) {left right : Option α}
    (values : Option.Rel same left right) :
    AlikeOperations related same (.demand failure left) (.demand failure right) := by
  cases values with
  | none => exact alike_refuse failure
  | some value => exact alike_pure value

/-- Calls that are alike make steps that are alike. -/
theorem alike_call (failure : ClientFailure → NodeError) {left right : Call σ α}
    (calls : AlikeCalls related same left right) :
    AlikeOperations related same (.call failure left) (.call failure right) := by
  intro state other states
  obtain ⟨results, events, behind⟩ := calls state other states
  rcases first : left state with ⟨result, leftEvents, next⟩
  rcases second : right other with ⟨otherResult, rightEvents, otherNext⟩
  rw [first, second] at results events behind
  obtain rfl : leftEvents = rightEvents := events
  cases results with
  | error cause =>
    simp only [Operation.call, first, second]
    exact ⟨.error _, trivial, behind⟩
  | ok values =>
    simp only [Operation.call, first, second]
    exact ⟨.ok values, trivial, behind⟩

/-- Steps in a row are alike if the first ones are, and the next ones are behind values that
are taken for the same. -/
theorem alike_bind {left right : Operation σ α} {next otherNext : α → Operation σ β}
    (first : AlikeOperations related same left right)
    (later : ∀ value other, same value other →
      AlikeOperations related sameNext (next value) (otherNext other)) :
    AlikeOperations related sameNext (left >>= next) (right >>= otherNext) := by
  intro state other states
  obtain ⟨results, events, behind⟩ := first state other states
  generalize leftResult : (left state).result = result at results
  generalize rightResult : (right other).result = otherResult at results
  cases results with
  | error failure =>
    rw [Operation.bind_failed left next state failure leftResult,
      Operation.bind_failed right otherNext other failure rightResult]
    exact ⟨.error failure, events, behind⟩
  | @ok value otherValue values =>
    rw [Operation.bind_passed left next state value leftResult,
      Operation.bind_passed right otherNext other otherValue rightResult]
    obtain ⟨laterResults, laterEvents, laterBehind⟩ := later value otherValue values _ _ behind
    exact ⟨laterResults, by rw [events, laterEvents], laterBehind⟩

/-- Steps in a row are alike if the first ones come to the same, and the next ones are alike
behind it. -/
theorem alike_bind_eq {left right : Operation σ α} {next otherNext : α → Operation σ β}
    (first : AlikeOperations related (· = ·) left right)
    (later : ∀ value, AlikeOperations related sameNext (next value) (otherNext value)) :
    AlikeOperations related sameNext (left >>= next) (right >>= otherNext) :=
  alike_bind first fun value other values => by
    subst values
    exact later value

/-- Operations that are alike are alike inside a span. -/
theorem alike_inside (span : Log.Span) {left right : Operation σ α}
    (operations : AlikeOperations related same left right) :
    AlikeOperations related same (.inside span left) (.inside span right) := by
  intro state other states
  obtain ⟨results, events, behind⟩ := operations state other states
  exact ⟨results, by simp only [Operation.inside, events], behind⟩

end Steps

/-! ## Clients that are disturbed -/

/-- States are related as they are without their records, and the records are the same. -/
def SameRecord {κ : Type} (related : σ → σ → Prop) (left right : σ × List κ) : Prop :=
  related left.1 right.1 ∧ left.2 = right.2

namespace Client

/-- A call that is recorded, and made to fail where a plan says so of the calls up to it. -/
def disturb (plan : List CallRecord → Option ClientFailure) (entry : CallRecord)
    (call : Call σ α) : Call (σ × List CallRecord) α :=
  fun (state, calls) =>
    match plan (calls ++ [entry]) with
    | some failure => .quiet (.error failure) (state, calls ++ [entry])
    | none => note entry call (state, calls)

/-- The client whose calls are recorded, and made to fail by a plan. -/
def disturbed (client : Client σ) (plan : List CallRecord → Option ClientFailure) :
    Client (σ × List CallRecord) where
  findBucketAccessRequest name namespaceName :=
    disturb plan (.find ⟨.bucketAccessRequest, some namespaceName, name⟩)
      (client.findBucketAccessRequest name namespaceName)
  findBucketAccess name :=
    disturb plan (.find ⟨.bucketAccess, none, name⟩) (client.findBucketAccess name)
  findBucketRequest name namespaceName :=
    disturb plan (.find ⟨.bucketRequest, some namespaceName, name⟩)
      (client.findBucketRequest name namespaceName)
  findBucket name := disturb plan (.find ⟨.bucket, none, name⟩) (client.findBucket name)
  findSecret name namespaceName :=
    disturb plan (.find ⟨.secret, some namespaceName, name⟩) (client.findSecret name namespaceName)
  replaceBucketAccess access := disturb plan (.replace access) (client.replaceBucketAccess access)

variable {related : σ → σ → Prop} {same : α → α → Prop}

/-- Calls that are alike are alike under the same plan. -/
theorem disturb_alike (plan : List CallRecord → Option ClientFailure) (entry : CallRecord)
    {left right : Call σ α} (calls : AlikeCalls related same left right) :
    AlikeCalls (SameRecord related) same (disturb plan entry left) (disturb plan entry right) := by
  rintro ⟨state, record⟩ ⟨other, _⟩ ⟨states, rfl⟩
  cases planned : plan (record ++ [entry]) with
  | some failure =>
    simp only [disturb, planned]
    exact ⟨.error failure, rfl, states, rfl⟩
  | none =>
    simp only [disturb, planned]
    obtain ⟨results, events, behind⟩ := calls state other states
    exact ⟨results, events, behind, rfl⟩

/-- Clients whose calls are alike have calls that are alike under the same plan. -/
theorem disturbed_alike {left right : Client σ} (clients : AlikeClients related left right)
    (plan : List CallRecord → Option ClientFailure) :
    AlikeClients (SameRecord related) (left.disturbed plan) (right.disturbed plan) where
  findBucketAccessRequest name namespaceName :=
    disturb_alike plan _ (clients.findBucketAccessRequest name namespaceName)
  findBucketAccess name := disturb_alike plan _ (clients.findBucketAccess name)
  findBucketRequest name namespaceName :=
    disturb_alike plan _ (clients.findBucketRequest name namespaceName)
  findBucket name := disturb_alike plan _ (clients.findBucket name)
  findSecret name namespaceName :=
    disturb_alike plan _ (clients.findSecret name namespaceName)
  replaceBucketAccess access := disturb_alike plan _ (clients.replaceBucketAccess access)

end Client

/-! ## The walk -/

namespace Node

variable {related : σ → σ → Prop} {left right : Client σ}

/-- Objects are looked up alike by calls that are alike. -/
theorem lookUp_alike (kind : Kind) (shownName : String) {same : α → α → Prop}
    {call otherCall : Call σ (Option α)}
    (calls : AlikeCalls related (Option.Rel same) call otherCall) :
    AlikeOperations related same (lookUp kind shownName call) (lookUp kind shownName otherCall) :=
  alike_bind (alike_call _ calls) fun _ _ values => alike_demand _ values

section Gates

variable (clients : AlikeClients related left right) (name namespaceName : String)

include clients

/-- The gate of a request for access is passed alike. -/
theorem bucketAccessRequest_alike :
    AlikeOperations related (· = ·) (bucketAccessRequest left name namespaceName)
      (bucketAccessRequest right name namespaceName) := by
  refine alike_inside _ (alike_bind_eq (alike_log _) fun _ => ?_)
  refine alike_bind_eq
    (lookUp_alike _ _ (clients.findBucketAccessRequest name namespaceName)) fun request => ?_
  refine alike_bind_eq (alike_check _ _) fun _ => ?_
  refine alike_bind_eq (alike_check _ _) fun _ => ?_
  exact alike_bind_eq (alike_check _ _) fun _ => alike_pure rfl

/-- The gate of a grant is passed alike. -/
theorem bucketAccess_alike :
    AlikeOperations related (· = ·) (bucketAccess left name) (bucketAccess right name) := by
  refine alike_inside _ (alike_bind_eq (alike_log _) fun _ => ?_)
  refine alike_bind_eq (lookUp_alike _ _ (clients.findBucketAccess name)) fun access => ?_
  refine alike_bind_eq (alike_check _ _) fun _ => ?_
  exact alike_bind_eq (alike_check _ _) fun _ => alike_pure rfl

/-- The gate of a bucket is passed alike. -/
theorem bucket_alike :
    AlikeOperations related (· = ·) (bucket left name) (bucket right name) := by
  refine alike_inside _ (alike_bind_eq (alike_log _) fun _ => ?_)
  refine alike_bind_eq (lookUp_alike _ _ (clients.findBucket name)) fun bucket => ?_
  exact alike_bind_eq (alike_check _ _) fun _ => alike_pure rfl

/-- Secrets are looked up alike, up to their contents. -/
theorem secret_alike :
    AlikeOperations related Secret.Alike (secret left name namespaceName)
      (secret right name namespaceName) :=
  alike_inside _ (alike_bind_eq (alike_log _) fun _ =>
    lookUp_alike _ _ (clients.findSecret name namespaceName))

/-- The walk from a request is alike over two clients whose calls are, up to the contents of
the secrets that it finds.

Proof: the links in front of the secret come to the same, so the same secret is looked up,
and nothing is done with it. -/
theorem resolve_alike :
    AlikeOperations related Resolved.Alike (resolve left name namespaceName)
      (resolve right name namespaceName) := by
  refine alike_bind_eq (bucketAccessRequest_alike clients name namespaceName) fun request => ?_
  refine alike_bind_eq (bucketAccess_alike clients _) fun access => ?_
  refine alike_bind_eq (bucket_alike clients _) fun bucket => ?_
  refine alike_bind (secret_alike clients _ namespaceName) fun secret other secrets => ?_
  exact alike_pure ⟨rfl, rfl, secrets⟩

end Gates

end Node

end BucketMount
