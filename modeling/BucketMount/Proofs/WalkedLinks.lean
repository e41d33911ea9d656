import BucketMount.Proofs.AccessChain

/-!
# Where the walk from a request stops

A link of the chain is an object to be looked up, the gate of its kind, and the
client's answer. It passes if the gate admits the answer, and refuses with one error
otherwise. A chain lays its links out together with their answers as if the walk went
on to each of them.

`resolve_stops_at_first_refusal` says that the calls of a walk are the first ones of
its chain, that the walk fails behind its k-th call exactly when the first k - 1 links
pass and the k-th does not, and that the error is that link's. So nothing is looked up
behind a link that refuses, and nothing is ever written.

The calls are seen through a client that records them, which changes nothing about
the walk. What the walk logs is not told here.
-/

namespace BucketMount.Node

variable {σ α β : Type}

/-! ## Recording the calls -/

/-- An operation over a recorded client comes to what it comes to over the client
itself, and leaves the client behind in the same state. -/
def Mirrors (operation : Operation σ α) (recorded : Operation (σ × List CallRecord) α) : Prop :=
  ∀ state calls, (recorded (state, calls)).result = (operation state).result ∧
    (recorded (state, calls)).state.1 = (operation state).state

/-- Two lookups at one gate whose calls get the same answers come to the same. -/
theorem mirrors_guarded {gate : Gate α} {shownName : String} {call : Call σ (Option α)}
    {operation : Operation σ α} {recorded : Operation (σ × List CallRecord) α}
    (entry : CallRecord) (guarded : gate.Guarded shownName call operation)
    (recordedGuarded : gate.Guarded shownName (Client.note entry call) recorded) :
    Mirrors operation recorded := by
  intro state calls
  obtain ⟨verdict, left⟩ := guarded state
  obtain ⟨recordedVerdict, recordedLeft⟩ := recordedGuarded (state, calls)
  exact ⟨recordedVerdict.unique verdict, by rw [recordedLeft, left]; rfl⟩

/-- Steps that are mirrored one by one are mirrored in a row. -/
theorem mirrors_bind {first : Operation σ α} {second : α → Operation σ β}
    {recordedFirst : Operation (σ × List CallRecord) α}
    {recordedSecond : α → Operation (σ × List CallRecord) β}
    (mirrored : Mirrors first recordedFirst)
    (later : ∀ value, Mirrors (second value) (recordedSecond value)) :
    Mirrors (first >>= second) (recordedFirst >>= recordedSecond) := by
  intro state calls
  obtain ⟨sameResult, sameState⟩ := mirrored state calls
  cases reached : (first state).result with
  | error failure =>
    have recordedReached := sameResult.trans reached
    rw [Operation.bind_failed _ _ _ _ reached, Operation.bind_failed _ _ _ _ recordedReached]
    exact ⟨rfl, sameState⟩
  | ok value =>
    have recordedReached := sameResult.trans reached
    rw [Operation.bind_passed _ _ _ _ reached, Operation.bind_passed _ _ _ _ recordedReached]
    have next := later value (first state).state (recordedFirst (state, calls)).state.2
    rw [← sameState] at next ⊢
    exact next

/-- Recording the calls changes nothing about the walk. -/
theorem resolve_mirrored (client : Client σ) (name namespaceName : String) :
    Mirrors (resolve client name namespaceName) (resolve client.recorded name namespaceName) := by
  refine mirrors_bind (mirrors_guarded _ (request_guarded client _ _)
    (request_guarded client.recorded _ _)) fun request => ?_
  refine mirrors_bind (mirrors_guarded _ (access_guarded client _)
    (access_guarded client.recorded _)) fun access => ?_
  refine mirrors_bind (mirrors_guarded _ (bucket_guarded client _)
    (bucket_guarded client.recorded _)) fun bucket => ?_
  refine mirrors_bind (mirrors_guarded _ (secret_guarded client _ _)
    (secret_guarded client.recorded _ _)) fun secret => ?_
  exact fun _ _ => ⟨rfl, rfl⟩

/-! ## The links of a walk -/

/-- One link of the chain: what is looked up, the gate of its kind, and what the
client answers. -/
structure Link where
  Object : Type
  address : Address
  gate : Gate Object
  answer : Except ClientFailure (Option Object)

namespace Link

/-- How messages name the object of a link: with its namespace if it has one. -/
def shownName (link : Link) : String :=
  match link.address.namespaceName with
  | some namespaceName => identifier namespaceName link.address.name
  | none => link.address.name

/-- The call of a link. -/
def record (link : Link) : CallRecord := .find link.address

/-- The answer is an object that the gate admits. -/
def Passes (link : Link) : Prop :=
  ∃ value, link.answer = .ok (some value) ∧ link.gate.Admits value

/-- The answer comes to an error at the gate. -/
def Refuses (link : Link) (error : NodeError) : Prop :=
  link.gate.Verdict link.shownName link.answer (.error error)

/-- A link that refuses does not pass. -/
theorem not_passes_of_refuses {link : Link} {error : NodeError} (refuses : link.Refuses error) :
    ¬ link.Passes := by
  rintro ⟨value, answered, admits⟩
  have passed : (.error error : Except NodeError link.Object) = .ok value :=
    (refuses.ok_iff value).mpr ⟨answered, admits⟩
  cases passed

/-- A link that does not pass refuses. -/
theorem refuses_of_not_passes {link : Link} (stuck : ¬ link.Passes) :
    ∃ error, link.Refuses error := by
  obtain ⟨result, verdict⟩ := Gate.Verdict.exists link.gate link.shownName link.answer
  cases result with
  | error error => exact ⟨error, verdict⟩
  | ok value => exact absurd ⟨value, (verdict.ok_iff value).mp rfl⟩ stuck

/-- A link refuses with one error only. -/
theorem refuses_unique {link : Link} {error other : NodeError} (refuses : link.Refuses error)
    (otherRefuses : link.Refuses other) : error = other :=
  Except.error.inj (refuses.unique otherRefuses)

end Link

/-- How a walk along links ends: with the calls it made, and with the error of the
link that refused if one did. -/
inductive Ends : List Link → List CallRecord → Except NodeError Unit → Prop where
  | through : Ends [] [] (.ok ())
  | refused (link : Link) (rest : List Link) (error : NodeError) (refuses : link.Refuses error) :
    Ends (link :: rest) [link.record] (.error error)
  | passed (link : Link) (rest : List Link) (made : List CallRecord)
      (result : Except NodeError Unit) (passes : link.Passes) (later : Ends rest made result) :
    Ends (link :: rest) (link.record :: made) result

namespace Ends

/-- The calls of a walk are the first ones of its links. -/
theorem made_prefix {links : List Link} {made : List CallRecord} {result : Except NodeError Unit}
    (ends : Ends links made result) : made <+: links.map Link.record := by
  induction ends with
  | through => exact List.prefix_rfl
  | refused link rest error refuses => simp
  | passed link rest made result passes later inductionHypothesis =>
    simpa using inductionHypothesis

/-- A walk along any link makes a call. -/
theorem made_nonempty {links : List Link} {made : List CallRecord}
    {result : Except NodeError Unit} (ends : Ends links made result) (linked : links ≠ []) :
    made ≠ [] := by
  cases ends with
  | through => exact absurd rfl linked
  | refused => simp
  | passed => simp

/-- A walk fails behind its k-th call exactly if the first k - 1 links pass and the
k-th refuses with its error.

The induction follows the walk. At a link that refuses, no longer stretch of passing
links fits, since that link would be in it; at one that passes, the refusing link
cannot be this one, and the stretch before it loses its first link. -/
theorem failed_iff {links : List Link} {made : List CallRecord} {result : Except NodeError Unit}
    (ends : Ends links made result) (error : NodeError) (count : Nat) :
    (result = .error error ∧ made.length = count) ↔
      ∃ before link after, links = before ++ link :: after ∧ before.length + 1 = count ∧
        (∀ earlier ∈ before, earlier.Passes) ∧ link.Refuses error := by
  induction ends generalizing count with
  | through => simp
  | refused link rest own refuses =>
    constructor
    · rintro ⟨same, rfl⟩
      obtain rfl : own = error := Except.error.inj same
      exact ⟨[], link, rest, rfl, rfl, by simp, refuses⟩
    · rintro ⟨before, other, after, order, rfl, passing, otherRefuses⟩
      cases before with
      | nil =>
        obtain ⟨rfl, rfl⟩ : link = other ∧ rest = after := by simpa using order
        exact ⟨by rw [Link.refuses_unique refuses otherRefuses], rfl⟩
      | cons first others =>
        obtain ⟨rfl, _⟩ : link = first ∧ rest = others ++ other :: after := by simpa using order
        exact absurd (passing link (by simp)) (Link.not_passes_of_refuses refuses)
  | passed link rest made result passes later inductionHypothesis =>
    constructor
    · rintro ⟨failed, rfl⟩
      obtain ⟨before, other, after, rfl, length, passing, refuses⟩ :=
        (inductionHypothesis made.length).mp ⟨failed, rfl⟩
      refine ⟨link :: before, other, after, rfl, by simp [← length], ?_, refuses⟩
      intro earlier member
      rcases List.mem_cons.mp member with rfl | old
      · exact passes
      · exact passing earlier old
    · rintro ⟨before, other, after, order, rfl, passing, refuses⟩
      cases before with
      | nil =>
        obtain ⟨rfl, rfl⟩ : link = other ∧ rest = after := by simpa using order
        exact absurd passes (Link.not_passes_of_refuses refuses)
      | cons first others =>
        obtain ⟨rfl, rfl⟩ : link = first ∧ rest = others ++ other :: after := by
          simpa using order
        obtain ⟨failed, length⟩ := (inductionHypothesis (others.length + 1)).mpr
          ⟨others, other, after, rfl, rfl, fun earlier member =>
            passing earlier (List.mem_cons_of_mem _ member), refuses⟩
        exact ⟨failed, by simp [length]⟩

/-- A walk fails behind its k-th call exactly if the first k - 1 links pass and the
k-th does not. -/
theorem stopped_iff {links : List Link} {made : List CallRecord} {result : Except NodeError Unit}
    (ends : Ends links made result) (count : Nat) :
    ((∃ error, result = .error error) ∧ made.length = count) ↔
      ∃ before link after, links = before ++ link :: after ∧ before.length + 1 = count ∧
        (∀ earlier ∈ before, earlier.Passes) ∧ ¬ link.Passes := by
  constructor
  · rintro ⟨⟨error, failed⟩, length⟩
    obtain ⟨before, link, after, order, place, passing, refuses⟩ :=
      (ends.failed_iff error count).mp ⟨failed, length⟩
    exact ⟨before, link, after, order, place, passing, Link.not_passes_of_refuses refuses⟩
  · rintro ⟨before, link, after, order, place, passing, stuck⟩
    obtain ⟨error, refuses⟩ := Link.refuses_of_not_passes stuck
    obtain ⟨failed, length⟩ := (ends.failed_iff error count).mpr
      ⟨before, link, after, order, place, passing, refuses⟩
    exact ⟨⟨error, failed⟩, length⟩

/-- A walk that does not fail has made all calls, and every link has passed. -/
theorem ok_exhausts {links : List Link} {made : List CallRecord} {result : Except NodeError Unit}
    (ends : Ends links made result) (passed : result = .ok ()) :
    made = links.map Link.record ∧ ∀ link ∈ links, link.Passes := by
  induction ends with
  | through => simp
  | refused => cases passed
  | passed link rest made result passes later inductionHypothesis =>
    obtain ⟨all, passing⟩ := inductionHypothesis passed
    exact ⟨by simp [all], by simpa using ⟨passes, passing⟩⟩

end Ends

/-! ## Where the walk stops -/

/-- A text of the object that the client answers with, empty without one. -/
def textIn (get : α → String) : Except ClientFailure (Option α) → String
  | .ok (some value) => get value
  | _ => ""

/-- The links of a walk, each with the answer that the client gives from where the
lookup before it left it. -/
def chain (client : Client σ) (name namespaceName : String) (state : σ) : List Link :=
  let first := client.findBucketAccessRequest name namespaceName state
  let accessName := textIn BucketAccessRequest.accessName first.result
  let second := client.findBucketAccess accessName first.state
  let bucketName := textIn (fun access => access.spec.bucketName) second.result
  let third := client.findBucket bucketName second.state
  let secretName := textIn (fun access => access.spec.mintedSecretName) second.result
  let fourth := client.findSecret secretName namespaceName third.state
  [⟨BucketAccessRequest, ⟨.bucketAccessRequest, some namespaceName, name⟩, requestGate,
      first.result⟩,
    ⟨BucketAccess, ⟨.bucketAccess, none, accessName⟩, accessGate, second.result⟩,
    ⟨Bucket, ⟨.bucket, none, bucketName⟩, bucketGate, third.result⟩,
    ⟨Secret, ⟨.secret, some namespaceName, secretName⟩, secretGate, fourth.result⟩]

/-- Every link of a chain is held against the gate of its own kind. -/
theorem chain_gates (client : Client σ) (name namespaceName : String) (state : σ) :
    ∀ link ∈ chain client name namespaceName state, link.gate.kind = link.address.kind := by
  simp [chain, requestGate, accessGate, bucketGate, secretGate]

/-- An operation over a recorded client walks along links: it makes calls behind the
earlier ones and ends as a walk along these links does. -/
def Follows (operation : Operation (σ × List CallRecord) α) (state : σ) (links : List Link) :
    Prop :=
  ∀ earlier, ∃ made, (operation (state, earlier)).state.2 = earlier ++ made ∧
    Ends links made ((operation (state, earlier)).result.map fun _ => ())

/-- A guarded lookup adds its link in front of those along which the rest walks. -/
theorem follows_bind (address : Address) (gate : Gate α) (call : Call σ (Option α)) (state : σ)
    (rest : List Link) {operation : Operation (σ × List CallRecord) α}
    {next : α → Operation (σ × List CallRecord) β}
    (guarded : gate.Guarded (Link.mk α address gate (call state).result).shownName
      (Client.note (.find address) call) operation)
    (later : ∀ value, (call state).result = .ok (some value) →
      Follows (next value) (call state).state rest) :
    Follows (operation >>= next) state (⟨α, address, gate, (call state).result⟩ :: rest) := by
  intro earlier
  let link : Link := ⟨α, address, gate, (call state).result⟩
  obtain ⟨verdict, left⟩ := guarded (state, earlier)
  cases reached : (operation (state, earlier)).result with
  | error error =>
    rw [reached] at verdict
    rw [Operation.bind_failed _ _ _ _ reached, left]
    exact ⟨[link.record], rfl, .refused link rest error verdict⟩
  | ok value =>
    obtain ⟨answered, admits⟩ := (verdict.ok_iff value).mp reached
    obtain ⟨made, calls, ends⟩ := later value answered (earlier ++ [.find address])
    rw [Operation.bind_passed _ _ _ _ reached, left]
    refine ⟨link.record :: made, calls.trans (by simp [link, Link.record]), ?_⟩
    exact .passed link rest made _ ⟨value, answered, admits⟩ ends

/-- The walk from a request follows its chain. -/
theorem resolve_follows (client : Client σ) (name namespaceName : String) (state : σ) :
    Follows (resolve client.recorded name namespaceName) state
      (chain client name namespaceName state) := by
  refine follows_bind ⟨.bucketAccessRequest, some namespaceName, name⟩ requestGate
    (client.findBucketAccessRequest name namespaceName) state _
    (request_guarded client.recorded name namespaceName) fun request answered => ?_
  simp only [answered, textIn, accessName_read]
  refine follows_bind ⟨.bucketAccess, none, request.accessName⟩ accessGate
    (client.findBucketAccess request.accessName) _ _
    (access_guarded client.recorded request.accessName) fun access granted => ?_
  simp only [granted, bucketName_read, mintedSecretName_read]
  refine follows_bind ⟨.bucket, none, access.spec.bucketName⟩ bucketGate
    (client.findBucket access.spec.bucketName) _ _
    (bucket_guarded client.recorded access.spec.bucketName) fun bucket _ => ?_
  refine follows_bind ⟨.secret, some namespaceName, access.spec.mintedSecretName⟩ secretGate
    (client.findSecret access.spec.mintedSecretName namespaceName) _ _
    (secret_guarded client.recorded access.spec.mintedSecretName namespaceName) fun secret _ => ?_
  exact fun earlier => ⟨[], by simp, .through⟩

/-- An error stays when the value that it stands in for is forgotten. -/
theorem forgotten_error_iff (result : Except NodeError α) (error : NodeError) :
    (result.map fun _ => ()) = .error error ↔ result = .error error := by
  cases result <;> simp [Except.map]

/-- The walk makes the calls of its chain in order, each at most once and no other,
up to the first link that does not pass. It fails behind its k-th call exactly if
the first k - 1 links pass and the k-th does not, with the error to which the answer
at this link comes; the error names the link's kind. A walk that does not fail has
made all four calls.

Proof: recording the calls changes nothing about the walk, the recorded walk follows
its chain, and a walk along links ends at the first refusal. -/
theorem resolve_stops_at_first_refusal (client : Client σ) (name namespaceName : String)
    (state : σ) :
    let links := chain client name namespaceName state
    let outcome := resolve client.recorded name namespaceName (state, [])
    let made := outcome.state.2
    outcome.result = (resolve client name namespaceName state).result ∧
    made ≠ [] ∧ made <+: links.map Link.record ∧
    (links.map fun link => link.address.kind) =
      [.bucketAccessRequest, .bucketAccess, .bucket, .secret] ∧
    (∀ count, ((∃ error, outcome.result = .error error) ∧ made.length = count) ↔
      ∃ before link after, links = before ++ link :: after ∧ before.length + 1 = count ∧
        (∀ earlier ∈ before, earlier.Passes) ∧ ¬ link.Passes) ∧
    (∀ error count, (outcome.result = .error error ∧ made.length = count) ↔
      ∃ before link after, links = before ++ link :: after ∧ before.length + 1 = count ∧
        (∀ earlier ∈ before, earlier.Passes) ∧ link.Refuses error) ∧
    (∀ link ∈ links, ∀ error, link.Refuses error →
      error.resourceKind? = some link.address.kind.word) ∧
    (∀ resolved, outcome.result = .ok resolved →
      made = links.map Link.record ∧ ∀ link ∈ links, link.Passes) := by
  intro links outcome made
  obtain ⟨calls, sameMade, walked⟩ := resolve_follows client name namespaceName state []
  obtain rfl : made = calls := by simpa using sameMade
  have ends : Ends links made (outcome.result.map fun _ => ()) := walked
  have failed (error : NodeError) :
      (outcome.result.map fun _ => ()) = .error error ↔ outcome.result = .error error :=
    forgotten_error_iff outcome.result error
  have linked : links ≠ [] := List.cons_ne_nil _ _
  refine ⟨(resolve_mirrored client name namespaceName state []).1, ends.made_nonempty linked,
    ends.made_prefix, rfl, fun count => ?_, fun error count => ?_, ?_, fun resolved passed => ?_⟩
  · simpa only [failed] using ends.stopped_iff count
  · simpa only [failed] using ends.failed_iff error count
  · intro link member error refuses
    rw [← chain_gates client name namespaceName state link member]
    exact refuses.kind_named
  · exact ends.ok_exhausts (by rw [passed]; rfl)

end BucketMount.Node
