import BucketMount.Proofs.MarkerSteps
import BucketMount.Proofs.OptimisticStore

/-!
# Marking a grant through one handle

A node fetches a grant once and marks it through this handle several times, as when
it protects the grant while a pod has the bucket mounted and releases it later.
Nobody else writes the grant, and the store is never disturbed.

The store hands back every accepted grant at its new version, but the handle keeps
the version at which it was fetched. So a handle is current until the first toggle
that changes something, which is still accepted; from then on it is outdated, and the
store refuses whatever is written through it. `held_marks_pass_iff` says exactly this;
`mounted_grant_not_released` is the smallest run in which it shows.
-/

namespace BucketMount.Handle

variable {σ : Type}

/-- A node's handle on a grant: its own copy, which it goes on changing, and the
state of the client. -/
structure Held (σ : Type) where
  copy : BucketAccess
  state : σ

/-- What marking the grant through a handle comes to. -/
def answer (client : Client σ) (held : Held σ) (toggle : Finalizer.Toggle) :
    Except NodeError BucketAccess :=
  ((Node.mark client toggle.action toggle.marker held.copy).2 held.state).result

/-- The handle once the grant was marked through it. -/
def next (client : Client σ) (held : Held σ) (toggle : Finalizer.Toggle) : Held σ :=
  let (copy, operation) := Node.mark client toggle.action toggle.marker held.copy
  ⟨copy, (operation held.state).state⟩

/-- The handle behind toggles in a row. -/
def run (client : Client σ) (held : Held σ) (toggles : List Finalizer.Toggle) : Held σ :=
  toggles.foldl (next client) held

/-- Every toggle of a row passes, and behind each of them the stored grant has the
markers of the handle. -/
def Serves (client : Client σ) (grant : σ → BucketAccess) :
    Held σ → List Finalizer.Toggle → Prop
  | _, [] => True
  | held, toggle :: rest =>
    (∃ stored, answer client held toggle = .ok stored) ∧
      (grant (next client held toggle).state).finalizers =
        (next client held toggle).copy.finalizers ∧
      Serves client grant (next client held toggle) rest

/-- A handle is current while it holds the grant that is stored. -/
def Current (grant : σ → BucketAccess) (access : BucketAccess) (held : Held σ) : Prop :=
  held.copy = access ∧ grant held.state = access

/-- A handle is outdated once it holds another version than the one that is stored. -/
def Outdated (name : String) (grant : σ → BucketAccess) (held : Held σ) : Prop :=
  held.copy.metadata.displayName = name ∧ ¬ held.copy.Fits (grant held.state)

section Laws

variable {client : Client σ} {name : String} {grant : σ → BucketAccess} {given : σ → List String}

/-- Marking through a handle comes to what the store answers to the marked copy. -/
theorem answer_eq (client : Client σ) (held : Held σ) (toggle : Finalizer.Toggle) :
    answer client held toggle =
      (client.replaceBucketAccess (next client held toggle).copy held.state).result.mapError
        (.update Kind.bucketAccess.word held.copy.metadata.displayName) :=
  Node.mark_result client toggle held.copy held.state

/-- Marking through a handle leaves the store as it is behind this writing. -/
theorem next_state (client : Client σ) (held : Held σ) (toggle : Finalizer.Toggle) :
    (next client held toggle).state =
      (client.replaceBucketAccess (next client held toggle).copy held.state).state :=
  Node.mark_state client toggle held.copy held.state

/-- What is written through a current handle is taken: the marked copy goes by the
grant's name and carries the version that is stored. -/
theorem current_taken (laws : Undisturbed client name grant given) {access : BucketAccess}
    {held : Held σ} (current : Current grant access held) (toggle : Finalizer.Toggle) :
    (next client held toggle).copy.metadata.displayName = name ∧
      answer client held toggle = .ok (grant (next client held toggle).state) ∧
      (client.replaceBucketAccess (next client held toggle).copy held.state).result =
        .ok (grant (next client held toggle).state) := by
  obtain ⟨rfl, stored⟩ := current
  have called : (next client held toggle).copy.metadata.displayName = name := by
    rw [← laws.named held.state, stored]
    rfl
  -- Marking leaves the version of the copy as it is.
  have fits : (next client held toggle).copy.Fits (grant held.state) := by
    rw [stored]
    exact fun _ carried => carried
  have taken := laws.takes held.state _ called fits
  rw [← next_state] at taken
  refine ⟨called, ?_, taken⟩
  rw [answer_eq, taken]
  rfl

/-- A toggle that is idle passes through a current handle, which stays current. -/
theorem current_idle (laws : Undisturbed client name grant given) {access : BucketAccess}
    {held : Held σ} (current : Current grant access held) (toggle : Finalizer.Toggle)
    (idle : toggle.Idle access.metadata.finalizers) :
    answer client held toggle = .ok access ∧ Current grant access (next client held toggle) := by
  obtain ⟨_, passed, _⟩ := current_taken laws current toggle
  obtain ⟨rfl, stored⟩ := current
  have unchanged : (next client held toggle).copy = held.copy :=
    (Node.marked_iff toggle held.copy).mpr idle
  have kept : grant (next client held toggle).state = held.copy := by
    rw [next_state, unchanged]
    simpa only [stored] using laws.idles held.state
  rw [kept] at passed
  exact ⟨passed, unchanged, kept⟩

/-- A toggle that changes something passes through a current handle and is stored as
the handle has it, at a version that the handle does not have. -/
theorem current_changed (laws : Undisturbed client name grant given) {access : BucketAccess}
    {held : Held σ} (current : Current grant access held) (toggle : Finalizer.Toggle)
    (changed : ¬ toggle.Idle access.metadata.finalizers) :
    answer client held toggle = .ok (grant (next client held toggle).state) ∧
      (grant (next client held toggle).state).finalizers =
        (next client held toggle).copy.finalizers ∧
      Outdated name grant (next client held toggle) := by
  obtain ⟨called, passed, taken⟩ := current_taken laws current toggle
  obtain ⟨rfl, stored⟩ := current
  obtain ⟨_, ⟨same, _⟩ | ⟨version, fresh, rewritten, _⟩⟩ :=
    laws.accepted held.state _ _ called taken
  · rw [stored] at same
    exact absurd ((Node.marked_iff toggle held.copy).mp same) changed
  · rw [← next_state] at rewritten
    refine ⟨passed, ?_, called, ?_⟩
    · rw [rewritten]
      rfl
    · obtain ⟨read, known, carried⟩ := laws.versioned held.state
      rw [stored] at carried
      intro fitting
      rw [rewritten] at fitting
      obtain rfl : version = read := Option.some.inj (fitting read carried)
      exact fresh known

/-- Through an outdated handle every toggle is refused as a conflict. Nothing is
stored, and the handle stays outdated. -/
theorem outdated_refused (laws : Undisturbed client name grant given) {held : Held σ}
    (outdated : Outdated name grant held) (toggle : Finalizer.Toggle) :
    (∃ refusal, answer client held toggle =
        .error (.update Kind.bucketAccess.word name (.refused refusal)) ∧ refusal.code = 409) ∧
      grant (next client held toggle).state = grant held.state ∧
      Outdated name grant (next client held toggle) := by
  obtain ⟨called, misfits⟩ := outdated
  obtain ⟨refusal, refused, code⟩ :=
    laws.conflicts held.state (next client held toggle).copy called misfits
  have kept : grant (next client held toggle).state = grant held.state := by
    rw [next_state]
    exact (laws.refusal_keeps held.state _ _ refused).1
  refine ⟨⟨refusal, ?_, code⟩, kept, called, ?_⟩
  · rw [answer_eq, refused, called]
    rfl
  · rw [kept]
    exact misfits

/-- An outdated handle stays outdated whatever is written through it. -/
theorem outdated_run (laws : Undisturbed client name grant given) {held : Held σ}
    (outdated : Outdated name grant held) (toggles : List Finalizer.Toggle) :
    Outdated name grant (run client held toggles) := by
  induction toggles generalizing held with
  | nil => exact outdated
  | cons toggle rest inductionHypothesis =>
    exact inductionHypothesis (outdated_refused laws outdated toggle).2.2

/-- Behind toggles that were all idle a handle is current, and behind any others it is
outdated. -/
theorem run_phase (laws : Undisturbed client name grant given) {access : BucketAccess}
    {held : Held σ} (current : Current grant access held) (toggles : List Finalizer.Toggle) :
    ((∀ toggle ∈ toggles, toggle.Idle access.metadata.finalizers) ∧
        Current grant access (run client held toggles)) ∨
      ((∃ toggle ∈ toggles, ¬ toggle.Idle access.metadata.finalizers) ∧
        Outdated name grant (run client held toggles)) := by
  induction toggles generalizing held with
  | nil => exact .inl ⟨by simp, current⟩
  | cons toggle rest inductionHypothesis =>
    by_cases idle : toggle.Idle access.metadata.finalizers
    · obtain ⟨_, stillCurrent⟩ := current_idle laws current toggle idle
      rcases inductionHypothesis stillCurrent with ⟨others, reached⟩ | ⟨others, reached⟩
      · refine .inl ⟨?_, reached⟩
        simpa using ⟨idle, others⟩
      · obtain ⟨other, member, changed⟩ := others
        exact .inr ⟨⟨other, List.mem_cons_of_mem _ member, changed⟩, reached⟩
    · obtain ⟨_, _, outdated⟩ := current_changed laws current toggle idle
      exact .inr ⟨⟨toggle, by simp, idle⟩, outdated_run laws outdated rest⟩

/-- Through a current handle a row of toggles passes, with the store and the handle in
step, exactly if every toggle but the last is idle.

The induction takes toggles off the front while they are idle. The first one that is
not still passes; if another one follows, that one is refused. -/
theorem serves_iff (laws : Undisturbed client name grant given) {access : BucketAccess}
    {held : Held σ} (current : Current grant access held) (toggles : List Finalizer.Toggle) :
    Serves client grant held toggles ↔
      ∀ toggle ∈ toggles.dropLast, toggle.Idle access.metadata.finalizers := by
  induction toggles generalizing held with
  | nil => simp [Serves]
  | cons toggle rest inductionHypothesis =>
    by_cases idle : toggle.Idle access.metadata.finalizers
    · obtain ⟨passed, stillCurrent⟩ := current_idle laws current toggle idle
      have inStep : (grant (next client held toggle).state).finalizers =
          (next client held toggle).copy.finalizers := by
        rw [stillCurrent.1, stillCurrent.2]
      rw [Serves, inductionHypothesis stillCurrent]
      cases rest with
      | nil => simp [passed, inStep]
      | cons second others => simp [passed, inStep, idle]
    · obtain ⟨passed, inStep, outdated⟩ := current_changed laws current toggle idle
      cases rest with
      | nil => simp [Serves, passed, inStep]
      | cons second others =>
        obtain ⟨⟨refusal, refused, _⟩, _⟩ := outdated_refused laws outdated second
        simp [Serves, refused, idle]

end Laws

/-- Through the handle on a fetched grant, a row of toggles passes with the store and
the handle in step exactly if every toggle but the last is idle on the fetched
markers. In detail: a toggle behind idle ones passes, and the stored grant that is
handed back has the markers of the handle; a toggle behind one that has changed
something is refused as a conflict and stores nothing.

Proof: a handle behind idle toggles is current, and any other is outdated. -/
theorem held_marks_pass_iff (client : Client σ) (name : String) (grant : σ → BucketAccess)
    (given : σ → List String) (laws : Undisturbed client name grant given) (state : σ)
    (access : BucketAccess)
    (fetched : (client.findBucketAccess name state).result = .ok (some access))
    (toggles : List Finalizer.Toggle) :
    let held : Held σ := ⟨access, (client.findBucketAccess name state).state⟩
    (Serves client grant held toggles ↔
      ∀ toggle ∈ toggles.dropLast, toggle.Idle access.metadata.finalizers) ∧
    ∀ toggle,
      let reached := run client held toggles
      let left := next client reached toggle
      ((∀ earlier ∈ toggles, earlier.Idle access.metadata.finalizers) →
        answer client reached toggle = .ok (grant left.state) ∧
          (grant left.state).finalizers = left.copy.finalizers) ∧
      ((∃ earlier ∈ toggles, ¬ earlier.Idle access.metadata.finalizers) →
        (∃ refusal, answer client reached toggle =
            .error (.update Kind.bucketAccess.word name (.refused refusal)) ∧
          refusal.code = 409) ∧
        grant left.state = grant reached.state) := by
  intro held
  obtain rfl : access = grant state := Option.some.inj (laws.fetched state _ fetched)
  have current : Current grant (grant state) held := ⟨rfl, (laws.fetch_keeps state).1⟩
  refine ⟨serves_iff laws current toggles, fun toggle => ?_⟩
  intro reached left
  rcases run_phase laws current toggles with ⟨idle, stillCurrent⟩ | ⟨others, outdated⟩
  · refine ⟨fun _ => ?_, fun ⟨other, member, changed⟩ => absurd (idle other member) changed⟩
    by_cases idles : toggle.Idle (grant state).metadata.finalizers
    · obtain ⟨passed, same, stored⟩ := current_idle laws stillCurrent toggle idles
      exact ⟨by rw [stored]; exact passed, by rw [stored, same]⟩
    · obtain ⟨passed, inStep, _⟩ := current_changed laws stillCurrent toggle idles
      exact ⟨passed, inStep⟩
  · obtain ⟨other, member, changed⟩ := others
    refine ⟨fun idle => absurd (idle other member) changed, fun _ => ?_⟩
    obtain ⟨refused, kept, _⟩ := outdated_refused laws outdated toggle
    exact ⟨refused, kept⟩

/-- A handle on an unmarked grant serves for removing the marker, which is not there,
and then adding it. -/
theorem unmarked_then_protected :
    Serves (Shelf.client "grant") Shelf.grant ⟨Shelf.unmarked.grant, Shelf.unmarked⟩
      [⟨.remove, bucketAccessFinalizer⟩, ⟨.add, bucketAccessFinalizer⟩] :=
  (held_marks_pass_iff (Shelf.client "grant") "grant" Shelf.grant Shelf.given
    (Shelf.undisturbed "grant") Shelf.unmarked Shelf.unmarked.grant rfl _).1.mpr (by decide)

/-- A node that marks a grant when a pod mounts the bucket cannot remove the marker
through the same handle when the pod is gone: the first writing passes, the second one
is a conflict. The handle has lost the marker then, and the stored grant still has
it. -/
theorem mounted_grant_not_released :
    let held : Held (Shelf "grant") := ⟨Shelf.unmarked.grant, Shelf.unmarked⟩
    let client := Shelf.client "grant"
    let protect : Finalizer.Toggle := ⟨.add, bucketAccessFinalizer⟩
    let release : Finalizer.Toggle := ⟨.remove, bucketAccessFinalizer⟩
    let mounted := next client held protect
    let released := next client mounted release
    Undisturbed client "grant" Shelf.grant Shelf.given ∧
      (client.findBucketAccess "grant" held.state).result = .ok (some held.copy) ∧
      held.copy.granted = true ∧
      answer client held protect = .ok mounted.state.grant ∧
      answer client mounted release =
        .error (.update "bucketAccess" "grant" (.refused Shelf.conflict)) ∧
      released.copy.finalizers = [] ∧
      released.state.grant.finalizers = [bucketAccessFinalizer] ∧
      ¬ Serves client Shelf.grant held [protect, release] := by
  intro held client protect release mounted released
  have refused : answer client mounted release =
      .error (.update "bucketAccess" "grant" (.refused Shelf.conflict)) := rfl
  refine ⟨Shelf.undisturbed "grant", rfl, rfl, rfl, refused, rfl, rfl, ?_⟩
  rintro ⟨_, _, ⟨stored, passed⟩, _⟩
  rw [refused] at passed
  cases passed

end BucketMount.Handle
