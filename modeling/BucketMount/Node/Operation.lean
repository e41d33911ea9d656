import BucketMount.Log.Event
import BucketMount.Node.Client

/-!
# Operations of a node

An operation runs over the state of a client. Its outcome is a result, the events
it logged in order, and the state it leaves behind. When a step fails the steps
behind it do not happen; the events and the state up to there stay.

An operation that fails because of what it found logs one event at the error
level where the failure arises, with the wording and the kind of the failure.
-/

namespace BucketMount

/-- What an operation comes to. -/
structure Outcome (σ α : Type) where
  result : Except NodeError α
  events : List Log.Event
  state : σ

/-- An operation over the state of a client. -/
def Operation (σ α : Type) := σ → Outcome σ α

namespace Operation

variable {σ α β : Type}

/-- Runs a second operation on the result of a first, unless that fails. -/
def andThen (first : Operation σ α) (second : α → Operation σ β) : Operation σ β :=
  fun state =>
    let outcome := first state
    match outcome.result with
    | .error failure => ⟨.error failure, outcome.events, outcome.state⟩
    | .ok value =>
      let next := second value outcome.state
      ⟨next.result, outcome.events ++ next.events, next.state⟩

instance : Monad (Operation σ) where
  pure value := fun state => ⟨.ok value, [], state⟩
  bind := andThen

/-- Logs an event. -/
def log (event : Log.Event) : Operation σ Unit := fun state => ⟨.ok (), [event], state⟩

/-- The part of the library that logs lookups and their failures. -/
def resolverTarget : String := "cosi_node::resolver"

/-- The event of a failure. -/
def failureEvent (failure : NodeError) : Log.Event :=
  ⟨.error, resolverTarget, "cosi lookup failed",
    [("error", .shown failure.message), ("kind", .text (failure.resourceKind?.getD "-"))], none⟩

/-- Fails and logs the failure. -/
def refuse (failure : NodeError) : Operation σ α :=
  fun state => ⟨.error failure, [failureEvent failure], state⟩

/-- Calls a client; its failure becomes one of the operation and is logged behind
what the client logged. -/
def call (failure : ClientFailure → NodeError) (call : Call σ α) : Operation σ α :=
  fun state =>
    let reply := call state
    match reply.result with
    | .ok value => ⟨.ok value, reply.events, reply.state⟩
    | .error cause =>
      ⟨.error (failure cause), reply.events ++ [failureEvent (failure cause)], reply.state⟩

/-- Takes the value of an option, or fails and logs the failure. -/
def demand (failure : NodeError) : Option α → Operation σ α
  | some value => pure value
  | none => refuse failure

/-- Goes on if a condition holds, or fails and logs the failure. -/
def check (failure : NodeError) (condition : Bool) : Operation σ Unit :=
  if condition then pure () else refuse failure

/-- Runs an operation inside a span: its events show the operation in progress. -/
def inside (span : Log.Span) (operation : Operation σ α) : Operation σ α :=
  fun state =>
    let outcome := operation state
    { outcome with events := outcome.events.map fun event => { event with span := some span } }

end Operation

end BucketMount
