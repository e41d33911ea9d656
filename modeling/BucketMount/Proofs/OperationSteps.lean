import BucketMount.Node.Operation

/-!
# Steps of an operation

Two steps in a row come to what the first comes to if it fails, and otherwise to
what the second comes to from the state that the first leaves behind, with the
events of both. Everything that is said of a whole operation is put together from
these two cases and from what its single steps come to; no statement about an
operation looks into how steps are joined.
-/

namespace BucketMount.Operation

variable {σ α β : Type}

/-- A step that fails is the last one: nothing is added to its events, and its
state stays. -/
theorem bind_failed (first : Operation σ α) (second : α → Operation σ β) (state : σ)
    (failure : NodeError) (failed : (first state).result = .error failure) :
    (first >>= second) state =
      ⟨.error failure, (first state).events, (first state).state⟩ := by
  simp only [bind, andThen, failed]

/-- A step that passes hands its value and its state to the next one. -/
theorem bind_passed (first : Operation σ α) (second : α → Operation σ β) (state : σ)
    (value : α) (passed : (first state).result = .ok value) :
    (first >>= second) state =
      ⟨(second value (first state).state).result,
        (first state).events ++ (second value (first state).state).events,
        (second value (first state).state).state⟩ := by
  simp only [bind, andThen, passed]

/-- Two steps pass exactly if the first does and the second does from there. -/
theorem bind_ok_iff (first : Operation σ α) (second : α → Operation σ β) (state : σ)
    (result : β) :
    ((first >>= second) state).result = .ok result ↔
      ∃ value, (first state).result = .ok value ∧
        (second value (first state).state).result = .ok result := by
  cases reached : (first state).result with
  | error failure => simp [bind_failed first second state failure reached]
  | ok value => simp [bind_passed first second state value reached]

/-- Passing a value on does nothing else. -/
@[simp]
theorem pure_run (value : α) (state : σ) :
    (pure value : Operation σ α) state = ⟨.ok value, [], state⟩ := rfl

/-- A step behind a log entry runs as it does alone, with the entry in front. -/
theorem log_bind (event : Log.Event) (next : Unit → Operation σ α) (state : σ) :
    ((log event : Operation σ Unit) >>= next) state =
      ⟨(next () state).result, event :: (next () state).events, (next () state).state⟩ := rfl

/-- A condition that holds is passed over. -/
theorem check_met_bind (failure : NodeError) (next : Unit → Operation σ α) (state : σ) :
    ((check failure true : Operation σ Unit) >>= next) state = next () state := rfl

/-- A condition that does not hold fails and leaves the state as it is. -/
theorem check_unmet_bind (failure : NodeError) (next : Unit → Operation σ α) (state : σ) :
    ((check failure false : Operation σ Unit) >>= next) state =
      ⟨.error failure, [failureEvent failure], state⟩ := rfl

/-- A call leaves behind the state that the client leaves behind. -/
@[simp]
theorem call_state (failure : ClientFailure → NodeError) (request : Call σ α) (state : σ) :
    (call failure request state).state = (request state).state := by
  cases answer : (request state).result <;> simp only [call, answer]

/-- A call comes to what the client answers, its failure put into words of the
operation. -/
@[simp]
theorem call_result (failure : ClientFailure → NodeError) (request : Call σ α) (state : σ) :
    (call failure request state).result = (request state).result.mapError failure := by
  cases answer : (request state).result <;> simp only [call, answer] <;> rfl

/-- What is computed to have passed has a value. -/
theorem passes_of_isOk {ε : Type} {result : Except ε α} (passes : result.isOk = true) :
    ∃ value, result = .ok value := by
  cases result with
  | error failure => cases passes
  | ok value => exact ⟨value, rfl⟩

/-- What is computed to have a value has passed with it. -/
theorem passes_of_toOption {ε : Type} {result : Except ε α} {value : α}
    (passes : result.toOption = some value) : result = .ok value := by
  cases result with
  | error failure => cases passes
  | ok other => exact congrArg Except.ok (Option.some.inj passes)

end BucketMount.Operation
