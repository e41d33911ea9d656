import BucketMount.Http.Client
import BucketMount.Proofs.AlikeRuns
import BucketMount.Proofs.ServerSteps

/-!
# Requests that cannot be told apart

Two transports are alike if they answer the same, except that a response from the path of a
secret may hold another secret, which differs from the first one in its contents alone. The
clients that use such transports are alike (`client_alike`): what is read from the path of
a secret is never taken for an object of another kind, since the objects of the other kinds
have paths of their own, whatever names are put into these.

A text at the path of a secret that holds no secret is told of only where it is the same for
both, since it would be logged as it is.
-/

namespace BucketMount

variable {σ α : Type}

/-! ## What lies at the path of a secret -/

/-- Two texts hold secrets that differ in their contents at most. -/
def Secret.AlikeTexts (left right : String) : Prop :=
  ∃ secret other, Secret.format.ofText left = .ok secret ∧
    Secret.format.ofText right = .ok other ∧ secret.Alike other

/-- Under a path secrets are served. -/
def SecretPath (path : String) : Prop :=
  ∃ namespaceName name, path = Address.path ⟨.secret, some namespaceName, name⟩

/-- How the paths of secrets begin. -/
def secretFront : List Char := ['/', 'a', 'p', 'i', '/']

/-- How the paths of all other objects begin. -/
def customFront : List Char := ['/', 'a', 'p', 'i', 's']

/-- The paths of secrets begin in the same way. -/
theorem SecretPath.front {path : String} (secret : SecretPath path) :
    secretFront <+: path.toList := by
  obtain ⟨namespaceName, name, rfl⟩ := secret
  simp only [Address.path, collectionPath, Kind.root, String.toList_append]
  exact ⟨_, rfl⟩

/-- The paths of all other objects begin in another way. -/
theorem Address.custom_front {address : Address} (custom : address.kind ≠ .secret) :
    customFront <+: address.path.toList := by
  have root : address.kind.root = "/apis/" ++ CustomKind.apiVersion := by
    cases kind : address.kind with
    | secret => exact absurd kind custom
    | bucketAccessRequest | bucketAccess | bucketRequest | bucket => rfl
  cases namespaceName : address.namespaceName with
  | none =>
    simp only [path, collectionPath, namespaceName, root, String.toList_append]
    exact ⟨_, rfl⟩
  | some name =>
    simp only [path, collectionPath, namespaceName, root, String.toList_append]
    exact ⟨_, rfl⟩

/-- No secret is served under a path that begins like those of other objects. -/
theorem not_secretPath {path : String} (front : customFront <+: path.toList) :
    ¬ SecretPath path := by
  intro secret
  have both : customFront <+: secretFront :=
    List.prefix_of_prefix_length_le front secret.front (by decide)
  exact absurd both (by decide)

/-- No other object is served under the path of a secret. -/
theorem Address.custom_path {address : Address} (custom : address.kind ≠ .secret) :
    ¬ SecretPath address.path :=
  not_secretPath (custom_front custom)

/-- A request for another object goes nowhere near the secrets, whatever its names are. -/
theorem Http.targetOf_custom {address : Address} (custom : address.kind ≠ .secret)
    {suffix : String} {target : Http.Target} (addressed : targetOf address suffix = .ok target) :
    ¬ SecretPath target.path := by
  obtain ⟨rest, path⟩ := Address.custom_front custom
  have kept : ∀ character ∈ customFront, (character != '?' && character != '#') = true :=
    List.all_eq_true.mp (by decide)
  apply not_secretPath
  rw [targetOf_path addressed, String.toList_ofList, String.toList_append, ← path,
    List.append_assoc, List.takeWhile_append_of_pos kept]
  exact List.prefix_append customFront _

/-- A format makes values that are taken for the same of the texts at a path, which may be
texts of secrets if it is the path of one. -/
structure ReadsAlike (format : Format α) (same : α → α → Prop) (path : String) : Prop where
  unchanged (value : α) : same value value
  secrets : SecretPath path → ∀ text other, Secret.AlikeTexts text other →
    ∃ value otherValue, format.ofText text = .ok value ∧ format.ofText other = .ok otherValue ∧
      same value otherValue

/-- Away from secrets every format reads the same. -/
theorem readsAlike_elsewhere {format : Format α} {path : String} (elsewhere : ¬ SecretPath path) :
    ReadsAlike format (· = ·) path where
  unchanged _ := rfl
  secrets secret := absurd secret elsewhere

/-- Secrets are read alike wherever they lie. -/
theorem Secret.readsAlike (path : String) : ReadsAlike Secret.format Secret.Alike path where
  unchanged _ := ⟨rfl, rfl, rfl⟩
  secrets _ _ _ texts := texts

namespace Http

/-! ## Transports -/

/-- Two responses from a path are the same, or hold secrets that differ in their contents at
most. -/
inductive AlikeResponses (path : String) : Response → Response → Prop where
  | same (response : Response) : AlikeResponses path response response
  | secrets {left right : String} (secret : SecretPath path)
      (texts : Secret.AlikeTexts left right) : AlikeResponses path ⟨200, left⟩ ⟨200, right⟩

/-- Two transports answer alike from all related states. -/
def AlikeTransports (related : σ → σ → Prop) (left right : Transport σ) : Prop :=
  ∀ request state other, related state other →
    AlikeResults (AlikeResponses request.target.path) (left request state).1
        (right request other).1 ∧
      related (left request state).2 (right request other).2

/-- The transport that is recorded, and whose answers a plan may choose, seeing the requests up
to the answered one: a refusal, an answer that makes no sense, or none at all. -/
def Transport.disturbed (transport : Transport σ)
    (plan : List Request → Option (Except TransportFault Response)) :
    Transport (σ × List Request) :=
  fun request (state, requests) =>
    match plan (requests ++ [request]) with
    | some answer => (answer, state, requests ++ [request])
    | none => transport.recorded request (state, requests)

variable {related : σ → σ → Prop} {left right : Transport σ}

/-- Transports that are alike are alike under the same plan. -/
theorem disturbed_alike (transports : AlikeTransports related left right)
    (plan : List Request → Option (Except TransportFault Response)) :
    AlikeTransports (SameRecord related) (left.disturbed plan) (right.disturbed plan) := by
  rintro request ⟨state, requests⟩ ⟨other, _⟩ ⟨states, rfl⟩
  cases planned : plan (requests ++ [request]) with
  | some answer =>
    simp only [Transport.disturbed, planned]
    refine ⟨?_, states, rfl⟩
    cases answer with
    | error fault => exact .error fault
    | ok response => exact .ok (.same response)
  | none =>
    simp only [Transport.disturbed, planned, Transport.recorded]
    obtain ⟨answers, behind⟩ := transports request state other states
    exact ⟨answers, behind, rfl⟩

/-! ## Clients of transports -/

/-- Responses that are alike hold objects that are, and the same is logged of them. -/
theorem object_alike {format : Format α} {same : α → α → Prop} {path : String}
    (reads : ReadsAlike format same path) {response other : Response}
    (responses : AlikeResponses path response other) :
    AlikeResults same (response.object format).1 (other.object format).1 ∧
      (response.object format).2 = (other.object format).2 := by
  cases responses with
  | same =>
    refine ⟨?_, rfl⟩
    cases (response.object format).1 with
    | error failure => exact .error failure
    | ok value => exact .ok (reads.unchanged value)
  | @secrets text otherText secret texts =>
    obtain ⟨value, otherValue, first, second, values⟩ := reads.secrets secret text otherText texts
    have accepted : refuses 200 = false := by decide
    simp only [Response.object, accepted, Bool.false_eq_true, if_false, first, second]
    exact ⟨.ok values, trivial⟩

/-- A request is answered alike by transports that are, if the object is read alike. -/
theorem send_alike (transports : AlikeTransports related left right) {format : Format α}
    {same : α → α → Prop} {request : Request}
    (reads : ReadsAlike format same request.target.path) :
    AlikeCalls related same (send left format request) (send right format request) := by
  intro state other states
  obtain ⟨answers, behind⟩ := transports request state other states
  rcases first : left request state with ⟨answer, next⟩
  rcases second : right request other with ⟨otherAnswer, otherNext⟩
  rw [first, second] at answers behind
  cases answers with
  | error fault =>
    simp only [send, first, second]
    exact ⟨.error _, trivial, behind⟩
  | ok responses =>
    simp only [send, first, second]
    obtain ⟨objects, events⟩ := object_alike reads responses
    exact ⟨objects, events, behind⟩

/-- Answers to a read that are alike are so with absence for an answer. -/
theorem optionalResult_alike {same : α → α → Prop} {result other : Except ClientFailure α}
    (results : AlikeResults same result other) :
    AlikeResults (Option.Rel same) (optionalResult result) (optionalResult other) := by
  cases results with
  | error failure =>
    simp only [optionalResult]
    split
    · exact .ok .none
    · exact .error failure
  | ok values => exact .ok (.some values)

/-- An object is read alike through transports that are. -/
theorem read_alike (transports : AlikeTransports related left right) {format : Format α}
    {same : α → α → Prop} {address : Address}
    (reads : ∀ target, targetOf address "" = .ok target → ReadsAlike format same target.path) :
    AlikeCalls related (Option.Rel same) (read left format address)
      (read right format address) := by
  intro state other states
  cases addressed : targetOf address "" with
  | error fault =>
    simp only [read, addressed]
    exact ⟨.error _, rfl, states⟩
  | ok target =>
    simp only [read, addressed]
    have sent : AlikeCalls related same (send left format ⟨.get, target, none⟩)
        (send right format ⟨.get, target, none⟩) :=
      send_alike transports (reads target addressed)
    obtain ⟨results, events, behind⟩ := sent state other states
    exact ⟨optionalResult_alike results, events, behind⟩

/-- Objects of other kinds than secrets are read alike. -/
theorem read_custom_alike (transports : AlikeTransports related left right) {format : Format α}
    {address : Address} (custom : address.kind ≠ .secret) :
    AlikeCalls related (Option.Rel (· = ·)) (read left format address)
      (read right format address) :=
  read_alike transports fun _ addressed => readsAlike_elsewhere (targetOf_custom custom addressed)

/-- A grant is replaced alike. -/
theorem replace_custom_alike (transports : AlikeTransports related left right)
    {format : Format α} {address : Address} (custom : address.kind ≠ .secret) (value : α) :
    AlikeCalls related (· = ·) (replace left format address value)
      (replace right format address value) := by
  intro state other states
  cases addressed : targetOf address "?" with
  | error fault =>
    simp only [replace, addressed]
    exact ⟨.error _, rfl, states⟩
  | ok target =>
    simp only [replace, addressed]
    have reads : ReadsAlike format (· = ·) target.path :=
      readsAlike_elsewhere (targetOf_custom custom addressed)
    exact send_alike transports reads state other states

/-- Clients that use transports that are alike are alike. -/
theorem client_alike (transports : AlikeTransports related left right) :
    AlikeClients related (client left) (client right) where
  findBucketAccessRequest _ _ := read_custom_alike transports (by simp)
  findBucketAccess _ := read_custom_alike transports (by simp)
  findBucketRequest _ _ := read_custom_alike transports (by simp)
  findBucket _ := read_custom_alike transports (by simp)
  findSecret _ _ := read_alike transports fun target _ => Secret.readsAlike target.path
  replaceBucketAccess access := replace_custom_alike transports (by simp) access

end Http

end BucketMount
