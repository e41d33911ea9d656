import BucketMount.Proofs.MarkerSteps
import Mathlib.Data.List.Basic
import Mathlib.Data.List.Induction

/-!
# Markers side by side

Several parties put markers on one object, each a marker of its own, and nobody looks at the
markers of the others. A toggle goes by its marker alone: whether it changes anything depends on
whether the marker is there, and all other markers stay where they are.

From this one step the rest follows for toggles in a row, in whatever order they come.
`markers_independent` gathers it: which markers are there in the end, how often, in which order,
what every toggle tells, and which toggles can be swapped. Unset markers and an empty list are
told apart throughout.
-/

namespace BucketMount.Finalizer

/-! ## One toggle -/

namespace Toggle

variable (toggle : Toggle) (markers : Option (List String))

/-- A marker to be added is in the list that the toggle leaves, behind the others if it is
new. -/
theorem applied_add (marker : String) :
    (Toggle.mk .add marker).applied markers =
      some (if marker ∈ markers.getD [] then markers.getD [] else markers.getD [] ++ [marker]) := by
  by_cases present : marker ∈ markers.getD [] <;> simp [applied, apply, add, present]

/-- What a removal leaves of a list: none at all if it was the last entry. -/
def unlessEmpty (markers : List String) : Option (List String) :=
  if markers = [] then none else some markers

/-- The entries are the same, whether or not there is a list of them. -/
@[simp]
theorem unlessEmpty_getD (markers : List String) : (unlessEmpty markers).getD [] = markers := by
  by_cases empty : markers = [] <;> simp [unlessEmpty, empty]

/-- A marker to be removed is taken out of the list wherever it stands. A list in which it is
not, or that is not there, stays as it is. -/
theorem applied_remove (marker : String) :
    (Toggle.mk .remove marker).applied markers =
      if marker ∈ markers.getD [] then unlessEmpty ((markers.getD []).filter (· != marker))
      else markers := by
  cases markers with
  | none => simp [applied, apply, remove]
  | some markers =>
    by_cases present : marker ∈ markers <;>
      simp [applied, apply, remove, present, unlessEmpty]

/-- A toggle leaves the other markers where they are. -/
theorem applied_others :
    ((toggle.applied markers).getD []).filter (· != toggle.marker) =
      (markers.getD []).filter (· != toggle.marker) := by
  obtain ⟨action, marker⟩ := toggle
  cases action with
  | add =>
    rw [applied_add]
    by_cases present : marker ∈ markers.getD [] <;> simp [present]
  | remove =>
    rw [applied_remove]
    by_cases present : marker ∈ markers.getD [] <;> simp [present]

/-- A toggle leaves every other marker as often as it was there. -/
theorem applied_count_other {marker : String} (other : toggle.marker ≠ marker) :
    ((toggle.applied markers).getD []).count marker = (markers.getD []).count marker := by
  have kept : (marker != toggle.marker) = true := by simpa using other.symm
  have counted (listed : List String) :
      (listed.filter (· != toggle.marker)).count marker = listed.count marker :=
    List.count_filter kept
  rw [← counted, toggle.applied_others, counted]

/-- A toggle leaves every other marker there or not there. -/
theorem applied_mem_other {marker : String} (other : toggle.marker ≠ marker) :
    marker ∈ (toggle.applied markers).getD [] ↔ marker ∈ markers.getD [] := by
  rw [← List.count_pos_iff, toggle.applied_count_other markers other, List.count_pos_iff]

/-- The marker of a toggle is there afterwards exactly if it was to be added. -/
theorem applied_mem_own :
    toggle.marker ∈ (toggle.applied markers).getD [] ↔ toggle.action = .add :=
  (toggle.applied_idle markers).symm

/-- A toggle that leaves its marker there more than once has found it so, and was to add
it. -/
theorem applied_repeated (repeated : 1 < ((toggle.applied markers).getD []).count toggle.marker) :
    toggle.action = .add ∧ 1 < (markers.getD []).count toggle.marker := by
  have added : toggle.action = .add := by
    rw [← toggle.applied_mem_own markers, ← List.count_pos_iff]
    omega
  refine ⟨added, ?_⟩
  obtain ⟨action, marker⟩ := toggle
  obtain rfl : action = .add := added
  rw [applied_add] at repeated
  by_cases present : marker ∈ markers.getD []
  · simpa [present] using repeated
  · have single : (markers.getD [] ++ [marker]).count marker = 1 := by
      simp [List.count_eq_zero.mpr present]
    simp only [present, if_false, Option.getD_some, single] at repeated
    omega

/-- What a toggle tells depends on nothing but whether its marker is there. -/
theorem told_congr {markers other : Option (List String)}
    (same : toggle.marker ∈ markers.getD [] ↔ toggle.marker ∈ other.getD []) :
    (apply toggle.action toggle.marker markers).2 = (apply toggle.action toggle.marker other).2 := by
  have alike : toggle.Idle markers ↔ toggle.Idle other := by
    rw [Idle, Idle, same]
  rw [← toggle.told_iff markers, ← toggle.told_iff other] at alike
  cases told : (apply toggle.action toggle.marker other).2 <;> simp_all

/-! ## Two toggles of different markers -/

/-- Adding one marker and removing another come to the same in either order. -/
theorem applied_add_remove {added removed : String} (different : added ≠ removed) :
    (Toggle.mk .remove removed).applied ((Toggle.mk .add added).applied markers) =
      (Toggle.mk .add added).applied ((Toggle.mk .remove removed).applied markers) := by
  have there : added ∈ ((Toggle.mk .add added).applied markers).getD [] :=
    (applied_mem_own _ markers).mpr rfl
  have same : removed ∈ ((Toggle.mk .add added).applied markers).getD [] ↔
      removed ∈ markers.getD [] := applied_mem_other _ markers different
  rw [applied_remove, applied_remove]
  by_cases present : removed ∈ markers.getD []
  · -- The marker that was added is left, so the list is not unset.
    have left : (((Toggle.mk .add added).applied markers).getD []).filter (· != removed) ≠ [] :=
      List.ne_nil_of_mem (List.mem_filter.mpr ⟨there, by simpa using different⟩)
    rw [if_pos (same.mpr present), if_pos present, unlessEmpty, if_neg left, applied_add,
      applied_add, unlessEmpty_getD]
    by_cases known : added ∈ markers.getD [] <;> simp [known, different]
  · rw [if_neg (mt same.mp present), if_neg present]

/-- Removing two markers comes to the same in either order. -/
theorem applied_remove_remove (marker other : String) (different : marker ≠ other) :
    (Toggle.mk .remove other).applied ((Toggle.mk .remove marker).applied markers) =
      (Toggle.mk .remove marker).applied ((Toggle.mk .remove other).applied markers) := by
  have same := applied_mem_other (Toggle.mk .remove marker) markers different
  have sameOther := applied_mem_other (Toggle.mk .remove other) markers different.symm
  rw [applied_remove ((Toggle.mk .remove marker).applied markers) other,
    applied_remove ((Toggle.mk .remove other).applied markers) marker]
  simp only [same, sameOther]
  by_cases present : marker ∈ markers.getD []
  · by_cases presentOther : other ∈ markers.getD []
    · simp only [applied_remove, present, presentOther, if_true, unlessEmpty_getD]
      rw [List.filter_comm]
    · simp [applied_remove, present, presentOther]
  · by_cases presentOther : other ∈ markers.getD [] <;>
      simp [applied_remove, present, presentOther]

/-- Toggles of different markers come to the same in either order, if one of them is to remove
its marker. Of two markers that are added the order shows. -/
theorem applied_swap (first second : Toggle) (different : first.marker ≠ second.marker)
    (removes : first.action = .remove ∨ second.action = .remove) :
    second.applied (first.applied markers) = first.applied (second.applied markers) := by
  obtain ⟨action, marker⟩ := first
  obtain ⟨otherAction, other⟩ := second
  cases action with
  | add =>
    cases otherAction with
    | add => simp at removes
    | remove => exact applied_add_remove markers different
  | remove =>
    cases otherAction with
    | add => exact (applied_add_remove markers different.symm).symm
    | remove => exact applied_remove_remove markers marker other different

end Toggle

/-! ## Toggles in a row -/

/-- Every toggle in a row with what it tells, and the metadata behind them all. -/
def run : List Toggle → Metadata → Metadata × List (Toggle × Bool)
  | [], metadata => (metadata, [])
  | toggle :: rest, metadata =>
    let (next, changed) := applyTo toggle.action toggle.marker metadata
    let (last, told) := run rest next
    (last, (toggle, changed) :: told)

/-- Toggles in a row change the markers one after the other, and nothing else. -/
theorem run_metadata (toggles : List Toggle) (metadata : Metadata) :
    (run toggles metadata).1 =
      { metadata with finalizers := replay toggles metadata.finalizers } := by
  induction toggles generalizing metadata with
  | nil => rfl
  | cons toggle rest inductionHypothesis =>
    rw [run, replay, List.foldl_cons]
    exact inductionHypothesis _

/-- A marker is there behind toggles exactly if the last toggle of it was to add it. -/
theorem replay_mem_iff (toggles : List Toggle) (markers : Option (List String)) {marker : String}
    {last : Toggle} (isLast : (toggles.filter (·.marker = marker)).getLast? = some last) :
    marker ∈ (replay toggles markers).getD [] ↔ last.action = .add := by
  induction toggles using List.reverseRecOn with
  | nil => simp at isLast
  | append_singleton toggles toggle inductionHypothesis =>
    rw [replay_snoc]
    by_cases own : toggle.marker = marker
    · obtain rfl : toggle = last := by simpa [own] using isLast
      rw [← own]
      exact toggle.applied_mem_own _
    · rw [toggle.applied_mem_other _ own]
      exact inductionHypothesis (by simpa [own] using isLast)

/-- A marker that is there more than once was so before, and was not to be removed. -/
theorem replay_repeated_only (toggles : List Toggle) (markers : Option (List String))
    (marker : String) (repeated : 1 < ((replay toggles markers).getD []).count marker) :
    1 < (markers.getD []).count marker ∧
      ∀ toggle ∈ toggles, toggle.marker = marker → toggle.action = .add := by
  induction toggles using List.reverseRecOn with
  | nil => exact ⟨repeated, by simp⟩
  | append_singleton toggles toggle inductionHypothesis =>
    rw [replay_snoc] at repeated
    by_cases own : toggle.marker = marker
    · subst own
      obtain ⟨added, before⟩ := toggle.applied_repeated _ repeated
      obtain ⟨initially, earlier⟩ := inductionHypothesis before
      refine ⟨initially, ?_⟩
      intro other member same
      rcases List.mem_append.mp member with old | last
      · exact earlier other old same
      · rw [List.mem_singleton.mp last]
        exact added
    · rw [toggle.applied_count_other _ own] at repeated
      obtain ⟨initially, earlier⟩ := inductionHypothesis repeated
      refine ⟨initially, ?_⟩
      intro other member same
      rcases List.mem_append.mp member with old | last
      · exact earlier other old same
      · rw [List.mem_singleton.mp last] at same
        exact absurd same own

/-- No toggle of a row is of this marker. -/
def spares (toggles : List Toggle) (marker : String) : Bool := toggles.all (·.marker != marker)

/-- The markers that are spared stay where they are. -/
theorem replay_spared (toggles : List Toggle) (markers : Option (List String)) :
    ((replay toggles markers).getD []).filter (spares toggles) =
      (markers.getD []).filter (spares toggles) := by
  induction toggles using List.reverseRecOn with
  | nil => rfl
  | append_singleton toggles toggle inductionHypothesis =>
    -- A row spares what its first part spares and its last toggle is not of.
    have divided (listed : List String) : listed.filter (spares (toggles ++ [toggle])) =
        (listed.filter (· != toggle.marker)).filter (spares toggles) := by
      rw [List.filter_filter]
      refine List.filter_congr ?_
      intro marker _
      simp [spares, bne_comm]
    rw [divided, divided, replay_snoc, toggle.applied_others, List.filter_comm,
      inductionHypothesis, List.filter_comm]

/-- What the toggles of one marker tell among others is what they tell alone, also from other
metadata that has the marker if the first has it.

The induction follows the row. A toggle of the marker leaves it there or not there in both runs
alike, and a toggle of another one changes nothing about it. -/
theorem run_told_alone (toggles : List Toggle) (marker : String) (metadata other : Metadata)
    (same : marker ∈ metadata.finalizers.getD [] ↔ marker ∈ other.finalizers.getD []) :
    (run toggles metadata).2.filter (·.1.marker = marker) =
      (run (toggles.filter (·.marker = marker)) other).2 := by
  induction toggles generalizing metadata other with
  | nil => rfl
  | cons toggle rest inductionHypothesis =>
    let next : Metadata := (applyTo toggle.action toggle.marker metadata).1
    by_cases own : toggle.marker = marker
    · subst own
      let otherNext : Metadata := (applyTo toggle.action toggle.marker other).1
      have alike : toggle.marker ∈ next.finalizers.getD [] ↔
          toggle.marker ∈ otherNext.finalizers.getD [] :=
        (toggle.applied_mem_own _).trans (toggle.applied_mem_own _).symm
      have told : (applyTo toggle.action toggle.marker metadata).2 =
          (applyTo toggle.action toggle.marker other).2 := toggle.told_congr same
      have later := inductionHypothesis next otherNext alike
      simp only [run, List.filter_cons, decide_true, if_true, told]
      rw [later]
    · have alike : marker ∈ next.finalizers.getD [] ↔ marker ∈ other.finalizers.getD [] :=
        (toggle.applied_mem_other _ own).trans same
      have later := inductionHypothesis next other alike
      simp only [run, List.filter_cons, own, decide_false, Bool.false_eq_true, if_false]
      exact later

/-- Toggles next to each other in a row can be swapped if they can be swapped alone. -/
theorem replay_swap (earlier later : List Toggle) (first second : Toggle)
    (markers : Option (List String)) (different : first.marker ≠ second.marker)
    (removes : first.action = .remove ∨ second.action = .remove) :
    replay (earlier ++ second :: first :: later) markers =
      replay (earlier ++ first :: second :: later) markers := by
  simp only [replay, List.foldl_append, List.foldl_cons]
  rw [Toggle.applied_swap _ first second different removes]

/-- Toggles of one marker do not interfere with those of another, however they come one behind
the other and whatever the markers were.

In the end a marker of which there was a toggle is there exactly if the last one was to add it,
and a marker is there more than once only if it was so before and was never to be removed.
Markers of which there was no toggle stay, each as often as it was there and in their order. What
the toggles of one marker tell is what they tell alone. A toggle tells of no change exactly if it
leaves the metadata as it is. Two toggles of different markers next to each other, one of which
is to remove its marker, can be swapped without a change to the outcome. -/
theorem markers_independent (toggles : List Toggle) (metadata : Metadata) :
    let before := metadata.finalizers.getD []
    let after := (run toggles metadata).1.finalizers.getD []
    (∀ marker last, (toggles.filter (·.marker = marker)).getLast? = some last →
      (marker ∈ after ↔ last.action = .add)) ∧
    (∀ marker, 1 < after.count marker → 1 < before.count marker ∧
      ∀ toggle ∈ toggles, toggle.marker = marker → toggle.action = .add) ∧
    (after.filter (spares toggles) = before.filter (spares toggles)) ∧
    (∀ marker, (run toggles metadata).2.filter (·.1.marker = marker) =
      (run (toggles.filter (·.marker = marker)) metadata).2) ∧
    (∀ (toggle : Toggle) (current : Metadata),
      (applyTo toggle.action toggle.marker current).2 = false ↔
        (applyTo toggle.action toggle.marker current).1 = current) ∧
    ∀ earlier first second later, toggles = earlier ++ first :: second :: later →
      first.marker ≠ second.marker → first.action = .remove ∨ second.action = .remove →
      (run (earlier ++ second :: first :: later) metadata).1 = (run toggles metadata).1 := by
  intro before after
  have replayed : after = (replay toggles metadata.finalizers).getD [] := by
    simp only [after, run_metadata]
  rw [replayed]
  refine ⟨?_, ?_, ?_, ?_, ?_, ?_⟩
  · intro marker last isLast
    exact replay_mem_iff toggles metadata.finalizers isLast
  · intro marker repeated
    exact replay_repeated_only toggles metadata.finalizers marker repeated
  · exact replay_spared toggles metadata.finalizers
  · intro marker
    exact run_told_alone toggles marker metadata metadata Iff.rfl
  · intro toggle current
    have told := toggle.told_iff current.finalizers
    rw [← toggle.applied_iff] at told
    refine told.trans ⟨?_, ?_⟩
    · intro unchanged
      exact congrArg (fun markers => { current with finalizers := markers }) unchanged
    · intro unchanged
      exact congrArg Metadata.finalizers unchanged
  · rintro earlier first second later rfl different removes
    rw [run_metadata, run_metadata, replay_swap _ _ _ _ _ different removes]

/-- Of two markers that are added the order shows. -/
example : replay [⟨.add, "left"⟩, ⟨.add, "right"⟩] none ≠
    replay [⟨.add, "right"⟩, ⟨.add, "left"⟩] none := by
  decide

end BucketMount.Finalizer
