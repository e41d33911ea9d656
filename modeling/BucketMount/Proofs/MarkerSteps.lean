import BucketMount.Node.Protection
import BucketMount.Proofs.OperationSteps

/-!
# Steps on markers

A toggle asks for one marker to be added or removed. It is idle on markers that
already are as it wants them; exactly then applying it leaves them as they are, and
exactly then no change is told. Toggles are replayed one after the other.

A node applies a toggle to its own copy of a grant, of which nothing else changes,
and makes one call that replaces the stored grant by the copy. What comes of the
toggle is what comes of this call.
-/

namespace BucketMount

namespace Finalizer

/-- A marker, and what is to be done to it. -/
structure Toggle where
  action : Action
  marker : String
  deriving DecidableEq, Repr

namespace Toggle

/-- The markers behind a toggle. -/
def applied (toggle : Toggle) (markers : Option (List String)) : Option (List String) :=
  (apply toggle.action toggle.marker markers).1

/-- The markers are as the toggle wants them: a marker to be added is there, and one
to be removed is not. -/
def Idle (toggle : Toggle) (markers : Option (List String)) : Prop :=
  toggle.action = .add ↔ toggle.marker ∈ markers.getD []

instance (toggle : Toggle) (markers : Option (List String)) : Decidable (toggle.Idle markers) :=
  inferInstanceAs (Decidable (_ ↔ _))

/-- A toggle tells of no change exactly if it is idle. -/
theorem told_iff (toggle : Toggle) (markers : Option (List String)) :
    (apply toggle.action toggle.marker markers).2 = false ↔ toggle.Idle markers := by
  obtain ⟨action, marker⟩ := toggle
  cases action with
  | add =>
    by_cases present : marker ∈ markers.getD [] <;> simp [apply, add, Idle, present]
  | remove =>
    cases markers with
    | none => simp [apply, remove, Idle]
    | some markers =>
      by_cases present : marker ∈ markers <;> simp [apply, remove, Idle, present]

/-- Applying a toggle leaves the markers as they are exactly if it is idle.

A marker that was not there is in the list once it is added, and one that was there
is not in the list any more once it is removed. -/
theorem applied_iff (toggle : Toggle) (markers : Option (List String)) :
    toggle.applied markers = markers ↔ toggle.Idle markers := by
  obtain ⟨action, marker⟩ := toggle
  cases action with
  | add =>
    by_cases present : marker ∈ markers.getD []
    · cases markers with
      | none => simp at present
      | some markers =>
        have listed : marker ∈ markers := present
        simp [applied, apply, add, Idle, listed]
    · have longer : some (markers.getD [] ++ [marker]) ≠ markers := by
        rintro same
        rw [← same] at present
        simp at present
      simpa [applied, apply, add, Idle, present] using longer
  | remove =>
    cases markers with
    | none => simp [applied, apply, remove, Idle]
    | some markers =>
      by_cases present : marker ∈ markers
      · by_cases emptied : (markers.filter (· != marker)).isEmpty <;>
          simp [applied, apply, remove, Idle, present, emptied]
      · simp [applied, apply, remove, Idle, present]

/-- A toggle has had its way with the markers that it leaves. -/
theorem applied_idle (toggle : Toggle) (markers : Option (List String)) :
    toggle.Idle (toggle.applied markers) := by
  obtain ⟨action, marker⟩ := toggle
  cases action with
  | add =>
    by_cases present : marker ∈ markers.getD [] <;> simp [applied, apply, add, Idle, present]
  | remove =>
    cases markers with
    | none => simp [applied, apply, remove, Idle]
    | some markers =>
      by_cases present : marker ∈ markers
      · by_cases emptied : (markers.filter (· != marker)).isEmpty <;>
          simp [applied, apply, remove, Idle, present, emptied]
      · simp [applied, apply, remove, Idle, present]

/-- Applying a toggle once more changes nothing. -/
theorem applied_again (toggle : Toggle) (markers : Option (List String)) :
    toggle.applied (toggle.applied markers) = toggle.applied markers :=
  (toggle.applied_iff _).mpr (toggle.applied_idle markers)

end Toggle

/-- The markers behind toggles that are applied one after the other. -/
def replay (toggles : List Toggle) (markers : Option (List String)) : Option (List String) :=
  toggles.foldl (fun current toggle => toggle.applied current) markers

/-- A toggle behind others is applied to what they leave. -/
theorem replay_snoc (toggles : List Toggle) (toggle : Toggle) (markers : Option (List String)) :
    replay (toggles ++ [toggle]) markers = toggle.applied (replay toggles markers) := by
  simp [replay]

/-- A toggle that is repeated behaves like one. -/
theorem replay_repeated (toggle : Toggle) (times : Nat) (markers : Option (List String)) :
    replay (List.replicate (times + 1) toggle) markers = toggle.applied markers := by
  induction times with
  | zero => rfl
  | succ times inductionHypothesis =>
    rw [List.replicate_succ', replay_snoc, inductionHypothesis, toggle.applied_again]

end Finalizer

/-- A grant with these markers and this version; nothing else of it changes. -/
def BucketAccess.remarked (access : BucketAccess) (markers : Option (List String))
    (version : Option String) : BucketAccess :=
  { access with
    metadata := { access.metadata with finalizers := markers, resourceVersion := version } }

namespace Node

variable {σ : Type}

/-- Marking a grant changes its markers as the toggle does, and nothing else. -/
theorem marked_eq (toggle : Finalizer.Toggle) (access : BucketAccess) :
    marked toggle.action toggle.marker access =
      access.remarked (toggle.applied access.metadata.finalizers)
        access.metadata.resourceVersion := rfl

/-- Marking a grant leaves it as it is exactly if the toggle is idle on its markers. -/
theorem marked_iff (toggle : Finalizer.Toggle) (access : BucketAccess) :
    marked toggle.action toggle.marker access = access ↔
      toggle.Idle access.metadata.finalizers := by
  rw [← toggle.applied_iff access.metadata.finalizers]
  constructor
  · intro same
    exact congrArg (fun grant => grant.metadata.finalizers) same
  · intro unchanged
    rw [marked_eq, unchanged]
    rfl

/-- Marking a grant comes to what the client answers to its replacement by the marked
copy. -/
theorem mark_result (client : Client σ) (toggle : Finalizer.Toggle) (access : BucketAccess)
    (state : σ) :
    ((mark client toggle.action toggle.marker access).2 state).result =
      (client.replaceBucketAccess (marked toggle.action toggle.marker access) state).result.mapError
        (.update Kind.bucketAccess.word access.metadata.displayName) := by
  simp only [mark, Operation.log_bind, replace, Operation.call_result]
  rfl

/-- Marking a grant makes this one call. -/
theorem mark_state (client : Client σ) (toggle : Finalizer.Toggle) (access : BucketAccess)
    (state : σ) :
    ((mark client toggle.action toggle.marker access).2 state).state =
      (client.replaceBucketAccess (marked toggle.action toggle.marker access) state).state := by
  simp only [mark, Operation.log_bind, replace, Operation.call_state]

end Node

end BucketMount
