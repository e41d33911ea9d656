import BucketMount.Node.Connection
import BucketMount.Node.Protection
import BucketMount.Node.Resolve
import BucketMount.Node.VolumeContext
import BucketMount.Proofs.OperationSteps

/-!
# Failures are logged once

An operation that fails logs one event at the error level, where the failure arises: the last
event of all, with the wording and the kind of the failure. An operation that passes logs none.
A client may log what it likes, at this level too, so it is made to keep a journal of what it
logs; what the journal tells is not the operation's. The journal changes nothing else, and no
operation sees it.

Each step of an operation is told of by one lemma, and steps in a row by `reports_bind`: the
last step that was made is the only one that can have failed. `failures_logged` puts every
operation together from its steps. The reading of a volume context is no such operation: it
fails without a word about it.
-/

namespace BucketMount

variable {σ α β : Type}

/-! ## Journals -/

namespace Client

/-- A call that also writes down what the client logs. -/
def noting (call : Call σ α) : Call (σ × List Log.Event) α :=
  fun (state, journal) =>
    let reply := call state
    ⟨reply.result, reply.events, reply.state, journal ++ reply.events⟩

/-- The client that also keeps a journal of what it logs. -/
def journaled (client : Client σ) : Client (σ × List Log.Event) where
  findBucketAccessRequest name namespaceName :=
    noting (client.findBucketAccessRequest name namespaceName)
  findBucketAccess name := noting (client.findBucketAccess name)
  findBucketRequest name namespaceName := noting (client.findBucketRequest name namespaceName)
  findBucket name := noting (client.findBucket name)
  findSecret name namespaceName := noting (client.findSecret name namespaceName)
  replaceBucketAccess access := noting (client.replaceBucketAccess access)

end Client

/-- The events of the error level, whatever operation was in progress. -/
def failures (events : List Log.Event) : List Log.Event :=
  (events.filter fun event => event.level = .error).map fun event => { event with span := none }

/-- The failures of events in a row are those of the first and of the later ones. -/
@[simp]
theorem failures_append (events later : List Log.Event) :
    failures (events ++ later) = failures events ++ failures later := by
  simp [failures]

/-- A span around events changes nothing about what they say of failures. -/
theorem failures_inside (span : Log.Span) (events : List Log.Event) :
    failures (events.map fun event => { event with span := some span }) = failures events := by
  simp [failures, List.filter_map, Function.comp_def]

/-- Events in which a client has told something speak of a failure of their own once: in the
last one of them, which is of the error level and shows the wording and the kind of the failure.
If nothing failed, they speak of none. -/
inductive Told (client : List Log.Event) : Except NodeError α → List Log.Event → Prop where
  | passed (value : α) (events : List Log.Event) (quiet : failures events = failures client) :
    Told client (.ok value) events
  | failed (failure : NodeError) (before : List Log.Event) (last : Log.Event)
    (quiet : failures before = failures client) (level : last.level = .error)
    (fields : last.fields = [("error", .shown failure.message),
      ("kind", .text (failure.resourceKind?.getD "-"))]) :
    Told client (.error failure) (before ++ [last])

/-- An operation, given over a client and over the same client with a journal, comes to the same
with and without it, and what it logs tells of its failures once. -/
def Reports (operation : Operation σ α) (journaled : Operation (σ × List Log.Event) α) : Prop :=
  ∀ state journal, ∃ told, Told told (operation state).result (operation state).events ∧
    journaled (state, journal) =
      ⟨(operation state).result, (operation state).events,
        ((operation state).state, journal ++ told)⟩

/-! ## Steps -/

/-- Passing a value on logs nothing. -/
theorem reports_pure (value : α) : Reports (pure value : Operation σ α) (pure value) :=
  fun state journal => ⟨[], .passed value [] rfl, by simp⟩

/-- An event below the error level tells of no failure. -/
theorem reports_log {event : Log.Event} (below : event.level ≠ .error) :
    Reports (.log event : Operation σ Unit) (.log event) := by
  refine fun state journal => ⟨[], .passed () [event] ?_, by simp [Operation.log]⟩
  simp [failures, below]

/-- A refusal logs its failure. -/
theorem reports_refuse (failure : NodeError) :
    Reports (.refuse failure : Operation σ α) (.refuse failure) :=
  fun state journal => ⟨[], .failed failure [] _ rfl rfl rfl, by simp [Operation.refuse]⟩

/-- A condition is passed over, or its failure is logged. -/
theorem reports_check (failure : NodeError) (condition : Bool) :
    Reports (.check failure condition : Operation σ Unit) (.check failure condition) := by
  cases condition with
  | false => exact reports_refuse failure
  | true => exact reports_pure ()

/-- A value is passed on, or the failure that there is none is logged. -/
theorem reports_demand (failure : NodeError) (found : Option α) :
    Reports (.demand failure found : Operation σ α) (.demand failure found) := by
  cases found with
  | none => exact reports_refuse failure
  | some value => exact reports_pure value

/-- The failure of a call is logged behind what the client logged of it. -/
theorem reports_call (failure : ClientFailure → NodeError) (call : Call σ α) :
    Reports (.call failure call) (.call failure (Client.noting call)) := by
  intro state journal
  refine ⟨(call state).events, ?_⟩
  cases answer : (call state).result with
  | error cause =>
    simp only [Operation.call, Client.noting, answer]
    exact ⟨.failed _ _ _ rfl rfl rfl, trivial⟩
  | ok value =>
    simp only [Operation.call, Client.noting, answer]
    exact ⟨.passed value _ rfl, trivial⟩

/-- What is logged before a failure, or before a passing, that is told once, and tells of no
failure, changes nothing about it. -/
theorem Told.behind {first later : List Log.Event} {result : Except NodeError α}
    {earlier events : List Log.Event} (quiet : failures earlier = failures first)
    (told : Told later result events) : Told (first ++ later) result (earlier ++ events) := by
  cases told with
  | passed value events none => exact .passed value _ (by simp [quiet, none])
  | failed failure before last none level fields =>
    rw [← List.append_assoc]
    exact .failed failure _ last (by simp [quiet, none]) level fields

/-- Steps in a row log their failures if each does.

A first step that fails is the last one made, and one that passes has told of no failure. -/
theorem reports_bind {first : Operation σ α} {journaledFirst : Operation (σ × List Log.Event) α}
    {next : α → Operation σ β} {journaledNext : α → Operation (σ × List Log.Event) β}
    (reports : Reports first journaledFirst)
    (later : ∀ value, Reports (next value) (journaledNext value)) :
    Reports (first >>= next) (journaledFirst >>= journaledNext) := by
  intro state journal
  obtain ⟨told, tells, reached⟩ := reports state journal
  generalize result : (first state).result = answer at tells reached
  generalize logged : (first state).events = events at tells reached
  have journaledResult : (journaledFirst (state, journal)).result = answer := by rw [reached]
  cases tells with
  | failed failure before last quiet level fields =>
    rw [Operation.bind_failed _ _ _ _ result, Operation.bind_failed _ _ _ _ journaledResult,
      reached, logged]
    exact ⟨told, .failed failure before last quiet level fields, rfl⟩
  | passed value events quiet =>
    obtain ⟨toldLater, tellsLater, behind⟩ := later value (first state).state (journal ++ told)
    rw [Operation.bind_passed _ _ _ _ result, Operation.bind_passed _ _ _ _ journaledResult,
      reached, logged, behind]
    exact ⟨told ++ toldLater, tellsLater.behind quiet, by simp⟩

/-- A failure inside a span is logged once. -/
theorem reports_inside (span : Log.Span) {operation : Operation σ α}
    {journaled : Operation (σ × List Log.Event) α} (reports : Reports operation journaled) :
    Reports (.inside span operation) (.inside span journaled) := by
  intro state journal
  obtain ⟨told, tells, reached⟩ := reports state journal
  refine ⟨told, ?_, by simp only [Operation.inside, reached]⟩
  simp only [Operation.inside]
  generalize (operation state).events = events at tells
  generalize (operation state).result = result at tells
  cases tells with
  | passed value events quiet => exact .passed value _ (by rw [failures_inside, quiet])
  | failed failure before last quiet level fields =>
    rw [List.map_append]
    exact .failed failure _ _ (by rw [failures_inside, quiet]) level fields

/-! ## Operations -/

namespace Node

/-- Looking an object up logs its failures. -/
theorem lookUp_reports (kind : Kind) (shownName : String) (call : Call σ (Option α)) :
    Reports (lookUp kind shownName call) (lookUp kind shownName (Client.noting call)) :=
  reports_bind (reports_call _ call) fun found => reports_demand _ found

/-- The announcement of a lookup tells of no failure. -/
theorem announce_reports (kind : Kind) (field shownName : String) :
    Reports (announce kind field shownName : Operation σ Unit) (announce kind field shownName) :=
  reports_log nofun

section Lookups

variable (client : Client σ) (name namespaceName : String)

/-- The lookup of a request for access logs its failures. -/
theorem bucketAccessRequest_reports :
    Reports (bucketAccessRequest client name namespaceName)
      (bucketAccessRequest client.journaled name namespaceName) := by
  refine reports_inside _ (reports_bind (announce_reports _ _ _) fun _ => ?_)
  refine reports_bind (lookUp_reports _ _ _) fun request => ?_
  refine reports_bind (reports_check _ _) fun _ => ?_
  refine reports_bind (reports_check _ _) fun _ => ?_
  exact reports_bind (reports_check _ _) fun _ => reports_pure request

/-- The lookup of a grant logs its failures. -/
theorem bucketAccess_reports :
    Reports (bucketAccess client name) (bucketAccess client.journaled name) := by
  refine reports_inside _ (reports_bind (announce_reports _ _ _) fun _ => ?_)
  refine reports_bind (lookUp_reports _ _ _) fun access => ?_
  refine reports_bind (reports_check _ _) fun _ => ?_
  exact reports_bind (reports_check _ _) fun _ => reports_pure access

/-- The lookup of a request for a bucket logs its failures. -/
theorem bucketRequest_reports :
    Reports (bucketRequest client name namespaceName)
      (bucketRequest client.journaled name namespaceName) := by
  refine reports_inside _ (reports_bind (announce_reports _ _ _) fun _ => ?_)
  refine reports_bind (lookUp_reports _ _ _) fun request => ?_
  refine reports_bind (reports_check _ _) fun _ => ?_
  exact reports_bind (reports_check _ _) fun _ => reports_pure request

/-- The lookup of a bucket logs its failures. -/
theorem bucket_reports : Reports (bucket client name) (bucket client.journaled name) := by
  refine reports_inside _ (reports_bind (announce_reports _ _ _) fun _ => ?_)
  refine reports_bind (lookUp_reports _ _ _) fun bucket => ?_
  exact reports_bind (reports_check _ _) fun _ => reports_pure bucket

/-- The lookup of a secret logs its failures. -/
theorem secret_reports :
    Reports (secret client name namespaceName) (secret client.journaled name namespaceName) :=
  reports_inside _ (reports_bind (announce_reports _ _ _) fun _ => lookUp_reports _ _ _)

/-- The walk from a request logs its failure once, at the link where it arises. -/
theorem resolve_reports :
    Reports (resolve client name namespaceName) (resolve client.journaled name namespaceName) := by
  refine reports_bind (bucketAccessRequest_reports client _ _) fun request => ?_
  refine reports_bind (bucketAccess_reports client _) fun access => ?_
  refine reports_bind (bucket_reports client _) fun bucket => ?_
  refine reports_bind (secret_reports client _ _) fun secret => ?_
  exact reports_pure _

end Lookups

/-- Taking the connection of a bucket logs its failure. -/
theorem connection_reports (bucket : Bucket) :
    Reports (connection bucket : Operation σ Connection) (connection bucket) :=
  reports_bind (reports_log nofun) fun _ => reports_demand _ _

/-- Marking a grant logs its failure. -/
theorem mark_reports (client : Client σ) (action : Finalizer.Action) (marker : String)
    (access : BucketAccess) :
    Reports (mark client action marker access).2 (mark client.journaled action marker access).2 :=
  reports_bind (reports_log nofun) fun _ => reports_call _ _

/-- Every failure of a lookup, of the walk, of a bucket's connection and of a marking is logged
once, as the last thing that is logged, and without a failure nothing is logged at the error
level, whatever the client answers and logs itself. Only the reading of a volume context logs
nothing at the error level in any case, also where it fails.

Proof: each of them is put together from steps, and a step that fails is the last one made. -/
theorem failures_logged (client : Client σ) :
    (∀ name namespaceName, Reports (bucketAccessRequest client name namespaceName)
      (bucketAccessRequest client.journaled name namespaceName)) ∧
    (∀ name, Reports (bucketAccess client name) (bucketAccess client.journaled name)) ∧
    (∀ name namespaceName, Reports (bucketRequest client name namespaceName)
      (bucketRequest client.journaled name namespaceName)) ∧
    (∀ name, Reports (bucket client name) (bucket client.journaled name)) ∧
    (∀ name namespaceName, Reports (secret client name namespaceName)
      (secret client.journaled name namespaceName)) ∧
    (∀ name namespaceName, Reports (resolve client name namespaceName)
      (resolve client.journaled name namespaceName)) ∧
    (∀ bucket, Reports (connection bucket : Operation σ Connection) (connection bucket)) ∧
    (∀ action marker access, Reports (mark client action marker access).2
      (mark client.journaled action marker access).2) ∧
    ∀ context (state : σ), failures (VolumeContext.read context state).events = [] := by
  refine ⟨bucketAccessRequest_reports client, bucketAccess_reports client,
    bucketRequest_reports client, bucket_reports client, secret_reports client,
    resolve_reports client, connection_reports, mark_reports client, fun context state => ?_⟩
  simp [VolumeContext.read, VolumeContext.event, failures]

/-- A volume context without entries is refused, and nothing is logged of the failure. -/
theorem missing_key_unlogged :
    VolumeContext.ofDictionary .empty = .error (.missingContextKey "bar-name") ∧
      ¬ Reports (VolumeContext.read .empty : Operation Unit VolumeContext)
        (VolumeContext.read .empty) := by
  have refused : VolumeContext.ofDictionary .empty = .error (.missingContextKey "bar-name") := rfl
  refine ⟨refused, fun reports => ?_⟩
  obtain ⟨told, tells, _⟩ := reports () []
  simp only [VolumeContext.read, refused] at tells
  generalize logged : [VolumeContext.event] = events at tells
  cases tells with
  | failed failure before last quiet level fields =>
    have only : last ∈ [VolumeContext.event] := by simp [logged]
    rw [List.mem_singleton.mp only] at level
    cases level

end Node

end BucketMount
