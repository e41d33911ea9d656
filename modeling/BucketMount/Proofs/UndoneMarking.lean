import BucketMount.Proofs.FailingUpdates
import BucketMount.Proofs.IndependentMarkers
import BucketMount.Proofs.RecordLaws

/-!
# Releasing what was protected

A node puts its marker on a grant, and takes it off when the pod is gone. If the marker was not
there before, the grant is then as the node found it, and the second writing has the text that
the grant had in the first place.

The one grant that is not restored has an empty list of markers. Removing the last marker unsets
the list, so nothing is left to tell that there was one: the member is missing from what is
written, and all others are there as they were.
-/

namespace BucketMount

namespace Finalizer.Toggle

/-- Removing a marker that has just been added leaves the markers as they were, apart from an
empty list, which is unset. -/
theorem applied_undone (marker : String) (markers : Option (List String))
    (absent : marker ∉ markers.getD []) :
    (Toggle.mk .remove marker).applied ((Toggle.mk .add marker).applied markers) =
      if markers = some [] then none else markers := by
  have added : (Toggle.mk .add marker).applied markers = some (markers.getD [] ++ [marker]) := by
    rw [applied_add, if_neg absent]
  have others : (markers.getD [] ++ [marker]).filter (· != marker) = markers.getD [] := by
    have kept : (markers.getD []).filter (· != marker) = markers.getD [] := by
      apply List.filter_eq_self.mpr
      intro other member
      simpa using ne_of_mem_of_not_mem member absent
    simp [kept]
  rw [added, applied_remove, Option.getD_some, if_pos (by simp), others]
  cases markers with
  | none => rfl
  | some markers => by_cases empty : markers = [] <;> simp [unlessEmpty, empty]

end Finalizer.Toggle

/-- Metadata without markers is written like any other, but the member that holds the markers is
missing. -/
theorem Metadata.unmarked_members (metadata : Metadata) :
    record.encodedMembers { metadata with finalizers := none } =
      (record.encodedMembers metadata).filter (·.1 != "finalizers") :=
  record.encodedMembers_omitted lawful metadata (List.getElem_mem (by decide : 4 < _)) none rfl

namespace Handle

variable {σ : Type}

/-- A client takes every grant that is written, at any state. -/
def Accepting (client : Client σ) : Prop :=
  ∀ access state, ∃ stored, (client.replaceBucketAccess access state).result = .ok stored

/-- Recording the calls makes no difference to what is taken. -/
theorem Accepting.recorded {client : Client σ} (accepting : Accepting client) :
    Accepting client.recorded := fun access (state, _) => accepting access state

/-- Every toggle passes if every writing is taken. -/
theorem Accepting.passes {client : Client σ} (accepting : Accepting client) (held : Held σ)
    (toggle : Finalizer.Toggle) : ∃ stored, answer client held toggle = .ok stored := by
  obtain ⟨stored, taken⟩ := accepting (next client held toggle).copy held.state
  refine ⟨stored, ?_⟩
  rw [answer_eq, taken]
  rfl

/-- Removing a marker that was added through the same handle leaves the handle's copy as it was,
apart from an empty list of markers, which is unset. -/
theorem undone_copy (client : Client σ) (held : Held σ) (marker : String)
    (absent : marker ∉ held.copy.finalizers) :
    (run client held [⟨.add, marker⟩, ⟨.remove, marker⟩]).copy =
      held.copy.remarked
        (if held.copy.metadata.finalizers = some [] then none else held.copy.metadata.finalizers)
        held.copy.metadata.resourceVersion := by
  have undone : Finalizer.replay [⟨.add, marker⟩, ⟨.remove, marker⟩]
      held.copy.metadata.finalizers =
        if held.copy.metadata.finalizers = some [] then none
        else held.copy.metadata.finalizers :=
    Finalizer.Toggle.applied_undone marker held.copy.metadata.finalizers absent
  rw [run_copy, undone]

/-- Adding a marker that a grant does not have, and then removing it, on a client that takes
every writing. Both pass, and each writes the whole copy, first with the marker behind the others
and then without it. Behind both the copy is the grant as it was in every field, and has its
text. Only an empty list of markers is not restored but unset: then the copy is the grant as it
was in every other field, and what is written differs from it by the missing member.

Proof: `undone_copy` for the copy behind both toggles, `next_recorded` for what they write. -/
theorem adding_undone (client : Client σ) (accepting : Accepting client) (access : BucketAccess)
    (marker : String) (absent : marker ∉ access.finalizers) (state : σ × List CallRecord) :
    let protect : Finalizer.Toggle := ⟨.add, marker⟩
    let release : Finalizer.Toggle := ⟨.remove, marker⟩
    let mounted := next client.recorded ⟨access, state⟩ protect
    let released := next client.recorded mounted release
    (∃ stored, answer client.recorded ⟨access, state⟩ protect = .ok stored) ∧
    (∃ stored, answer client.recorded mounted release = .ok stored) ∧
    released.state.2 = state.2 ++ [.replace mounted.copy, .replace released.copy] ∧
    mounted.copy =
      { access with
        metadata := { access.metadata with finalizers := some (access.finalizers ++ [marker]) } } ∧
    (access.metadata.finalizers ≠ some [] →
      released.copy = access ∧
        BucketAccess.kind.format.toText released.copy = BucketAccess.kind.format.toText access) ∧
    (access.metadata.finalizers = some [] →
      released.copy =
          { access with metadata := { access.metadata with finalizers := none } } ∧
        Metadata.record.encodedMembers released.copy.metadata =
          (Metadata.record.encodedMembers access.metadata).filter (·.1 != "finalizers")) := by
  intro protect release mounted released
  have undone : released.copy = access.remarked
      (if access.metadata.finalizers = some [] then none else access.metadata.finalizers)
      access.metadata.resourceVersion := undone_copy client.recorded ⟨access, state⟩ marker absent
  have added : mounted.copy =
      access.remarked (protect.applied access.metadata.finalizers)
        access.metadata.resourceVersion := Node.marked_eq protect access
  refine ⟨accepting.recorded.passes _ _, accepting.recorded.passes _ _, ?_, ?_, ?_, ?_⟩
  · have first : mounted.state.2 = state.2 ++ [.replace mounted.copy] :=
      congrArg Prod.snd (next_recorded client ⟨access, state⟩ protect)
    have second : released.state.2 = mounted.state.2 ++ [.replace released.copy] :=
      congrArg Prod.snd (next_recorded client mounted release)
    rw [second, first, List.append_assoc, List.singleton_append]
  · have behind : protect.applied access.metadata.finalizers =
        some (access.finalizers ++ [marker]) := by
      rw [Finalizer.Toggle.applied_add]
      exact congrArg some (if_neg absent)
    rw [added, behind]
    rfl
  · intro restored
    rw [if_neg restored] at undone
    have same : released.copy = access := undone
    exact ⟨same, congrArg _ same⟩
  · intro empty
    rw [if_pos empty] at undone
    refine ⟨undone, ?_⟩
    rw [undone]
    exact access.metadata.unmarked_members

/-! ## A client that hands back what is written -/

/-- A client that takes every writing and hands it back, and finds nothing. -/
def echo : Client Unit where
  findBucketAccessRequest _ _ := .quiet (.ok none)
  findBucketAccess _ := .quiet (.ok none)
  findBucketRequest _ _ := .quiet (.ok none)
  findBucket _ := .quiet (.ok none)
  findSecret _ _ := .quiet (.ok none)
  replaceBucketAccess access := .quiet (.ok access)

/-- The client takes every writing. -/
theorem echo_accepting : Accepting echo := fun access _ => ⟨access, rfl⟩

/-- A grant that another node has marked is as it was once this node has added its marker and
removed it. -/
theorem marked_grant_restored :
    let grant := { Shelf.unmarked.contents with
      metadata := { Shelf.unmarked.contents.metadata with finalizers := some ["other"] } }
    let start : Held (Unit × List CallRecord) := ⟨grant, ((), [])⟩
    let mounted := next echo.recorded start ⟨.add, bucketAccessFinalizer⟩
    let released := next echo.recorded mounted ⟨.remove, bucketAccessFinalizer⟩
    mounted.copy.finalizers = ["other", bucketAccessFinalizer] ∧
      released.copy = grant ∧
      BucketAccess.kind.format.toText released.copy = BucketAccess.kind.format.toText grant := by
  intro grant start mounted released
  obtain ⟨_, _, _, _, restored, _⟩ := adding_undone echo echo_accepting grant bucketAccessFinalizer
    (by decide) ((), [])
  exact ⟨rfl, restored (by decide)⟩

/-- A grant with an empty list of markers is not as it was once a marker was added and removed:
the list is unset, and what is written is another text. -/
theorem empty_markers_unset :
    let grant := { Shelf.unmarked.contents with
      metadata := { Shelf.unmarked.contents.metadata with finalizers := some [] } }
    let start : Held (Unit × List CallRecord) := ⟨grant, ((), [])⟩
    let mounted := next echo.recorded start ⟨.add, bucketAccessFinalizer⟩
    let released := next echo.recorded mounted ⟨.remove, bucketAccessFinalizer⟩
    Accepting echo ∧ bucketAccessFinalizer ∉ grant.finalizers ∧
      released.state.2 = [.replace mounted.copy, .replace released.copy] ∧
      released.copy ≠ grant ∧
      BucketAccess.kind.format.toText released.copy ≠ BucketAccess.kind.format.toText grant := by
  intro grant start mounted released
  refine ⟨echo_accepting, by decide, rfl, ?_, ?_⟩
  · intro same
    exact absurd (congrArg (fun access => access.metadata.finalizers) same) (by decide)
  · decide +kernel

end Handle

end BucketMount
