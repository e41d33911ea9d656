import BucketMount.Proofs.MarkerSteps
import BucketMount.Proofs.OptimisticStore
import Mathlib.Logic.Function.Basic

/-!
# A grant that several nodes mark

Nodes share a grant: each fetches it over and over and applies one toggle to what
it has fetched. Their fetches and their writings interleave in any order, there may
be any number of nodes, and any call may fail. The store is relied on for its
optimistic concurrency only.

A node that has fetched the grant holds a copy of it until it marks the grant; the
copy may be out of date by then. The law is that a copy at the current version is
the stored grant, so that a writing is taken only if the marks of all earlier ones
are in it. `accepted_marks_kept` says that the stored grant is at any time the
initial one with all accepted toggles replayed, and that a toggle that is not
accepted leaves no trace.

How a node chooses its toggles, and what it does with an error, is not modelled.
-/

namespace BucketMount.Sharing

variable {σ Party : Type}

/-- What a party does next: it fetches the grant, or it marks the copy that it
holds. -/
inductive Move (Party : Type) where
  | fetch (party : Party)
  | mark (party : Party) (toggle : Finalizer.Toggle)

/-- A store that parties share: its state, the copies that they hold, and the
toggles that were accepted so far, in this order. -/
structure Shared (σ Party : Type) where
  state : σ
  copies : Party → Option BucketAccess
  accepted : List Finalizer.Toggle

/-- Nobody has fetched anything yet. -/
def start (state : σ) : Shared σ Party := ⟨state, fun _ => none, []⟩

variable [DecidableEq Party]

/-- A party fetches the grant; if that fails it keeps what it holds. -/
def fetch (client : Client σ) (name : String) (party : Party) (shared : Shared σ Party) :
    Shared σ Party :=
  let reply := client.findBucketAccess name shared.state
  match reply.result with
  | .error _ => { shared with state := reply.state }
  | .ok found =>
    { shared with state := reply.state, copies := Function.update shared.copies party found }

/-- A party marks the copy that it holds, and holds none afterwards. Without a copy
nothing happens. The toggle is accepted if the operation passes. -/
def mark (client : Client σ) (party : Party) (toggle : Finalizer.Toggle)
    (shared : Shared σ Party) : Shared σ Party :=
  match shared.copies party with
  | none => shared
  | some copy =>
    let outcome := (Node.mark client toggle.action toggle.marker copy).2 shared.state
    { state := outcome.state
      copies := Function.update shared.copies party none
      accepted := match outcome.result with
        | .ok _ => shared.accepted ++ [toggle]
        | .error _ => shared.accepted }

/-- One move. -/
def step (client : Client σ) (name : String) (shared : Shared σ Party) :
    Move Party → Shared σ Party
  | .fetch party => fetch client name party shared
  | .mark party toggle => mark client party toggle shared

/-- Moves in a row. -/
def run (client : Client σ) (name : String) (shared : Shared σ Party)
    (moves : List (Move Party)) : Shared σ Party :=
  moves.foldl (step client name) shared

/-- A copy goes by the grant's name and was read at a version that the grant has had;
if that is the current one the copy is the stored grant. -/
def Tracks (name : String) (stored : BucketAccess) (given : List String) (copy : BucketAccess) :
    Prop :=
  copy.metadata.displayName = name ∧
    ∃ version ∈ given, copy.metadata.resourceVersion = some version ∧
      (stored.metadata.resourceVersion = some version → copy = stored)

/-- What every move keeps: the stored grant is the initial one with the accepted
toggles replayed, whatever its version, and every copy tracks it. -/
structure Kept (name : String) (grant : σ → BucketAccess) (given : σ → List String)
    (initial : BucketAccess) (shared : Shared σ Party) : Prop where
  replayed : grant shared.state =
    initial.remarked (Finalizer.replay shared.accepted initial.metadata.finalizers)
      (grant shared.state).metadata.resourceVersion
  tracked (party : Party) (copy : BucketAccess) : shared.copies party = some copy →
    Tracks name (grant shared.state) (given shared.state) copy

/-- A copy goes on tracking the grant when another one is stored at a new version:
it was read at an older one. -/
theorem tracks_rewritten {name : String} {stored copy : BucketAccess} {given : List String}
    (tracks : Tracks name stored given copy) (access : BucketAccess) (version : String)
    (fresh : version ∉ given) : Tracks name (access.stamped version) (version :: given) copy := by
  obtain ⟨called, read, known, carried, _⟩ := tracks
  refine ⟨called, read, List.mem_cons_of_mem _ known, carried, ?_⟩
  rintro same
  obtain rfl : version = read := Option.some.inj same
  exact absurd known fresh

section Laws

variable {client : Client σ} {name : String} {grant : σ → BucketAccess} {given : σ → List String}

/-- The stored grant tracks itself. -/
theorem tracks_self (laws : Optimistic client name grant given) (state : σ) :
    Tracks name (grant state) (given state) (grant state) := by
  obtain ⟨version, known, current⟩ := laws.versioned state
  exact ⟨laws.named state, version, known, current, fun _ => rfl⟩

omit [DecidableEq Party] in
/-- At the start the law holds. -/
theorem start_kept (state : σ) :
    Kept name grant given (grant state) (start state : Shared σ Party) where
  replayed := rfl
  tracked party copy held := by simp [start] at held

/-- Handing a party another copy that tracks the grant, or none, keeps the law. -/
theorem handed_kept {initial : BucketAccess} {shared : Shared σ Party}
    (kept : Kept name grant given initial shared) (state : σ) (party : Party)
    (handed : Option BucketAccess) (sameGrant : grant state = grant shared.state)
    (sameGiven : given state = given shared.state)
    (tracks : ∀ copy, handed = some copy →
      Tracks name (grant shared.state) (given shared.state) copy) :
    Kept name grant given initial
      ⟨state, Function.update shared.copies party handed, shared.accepted⟩ where
  replayed := by simpa only [sameGrant] using kept.replayed
  tracked other copy held := by
    simp only [sameGrant, sameGiven]
    by_cases handing : other = party
    · subst handing
      exact tracks copy (by simpa using held)
    · exact kept.tracked other copy (by simpa [handing] using held)

/-- A fetch hands out the stored grant or fails; either way it keeps the law. -/
theorem fetch_kept (laws : Optimistic client name grant given) {initial : BucketAccess}
    {shared : Shared σ Party} (party : Party) (kept : Kept name grant given initial shared) :
    Kept name grant given initial (fetch client name party shared) := by
  obtain ⟨sameGrant, sameGiven⟩ := laws.fetch_keeps shared.state
  cases answer : (client.findBucketAccess name shared.state).result with
  | error cause =>
    simp only [fetch, answer]
    exact ⟨by simpa only [sameGrant] using kept.replayed,
      by simpa only [sameGrant, sameGiven] using kept.tracked⟩
  | ok found =>
    obtain rfl := laws.fetched shared.state found answer
    simp only [fetch, answer]
    refine handed_kept kept _ party _ sameGrant sameGiven fun copy handed => ?_
    obtain rfl : grant shared.state = copy := Option.some.inj handed
    exact tracks_self laws shared.state

/-- A toggle that is not accepted leaves the stored grant as it is. -/
theorem refused_mark_keeps (laws : Optimistic client name grant given) (state : σ)
    (toggle : Finalizer.Toggle) (copy : BucketAccess) (error : NodeError)
    (refused :
      ((Node.mark client toggle.action toggle.marker copy).2 state).result = .error error) :
    grant ((Node.mark client toggle.action toggle.marker copy).2 state).state = grant state ∧
      given ((Node.mark client toggle.action toggle.marker copy).2 state).state = given state := by
  rw [Node.mark_result] at refused
  rw [Node.mark_state]
  cases answer : (client.replaceBucketAccess (Node.marked toggle.action toggle.marker copy)
      state).result with
  | error cause => exact laws.refusal_keeps state _ cause answer
  | ok stored =>
    rw [answer] at refused
    cases refused

/-- A toggle that is accepted was applied to the stored grant, and the outcome is
stored, at a new version or because nothing changes.

Proof: a writing is taken only at the current version, and a copy at the current
version is the stored grant. -/
theorem accepted_mark_stores (laws : Optimistic client name grant given) (state : σ)
    (toggle : Finalizer.Toggle) (copy answer : BucketAccess)
    (tracks : Tracks name (grant state) (given state) copy)
    (accepted : ((Node.mark client toggle.action toggle.marker copy).2 state).result = .ok answer) :
    let next := ((Node.mark client toggle.action toggle.marker copy).2 state).state
    let marked := Node.marked toggle.action toggle.marker (grant state)
    (marked = grant state ∧ grant next = grant state ∧ given next = given state) ∨
      ∃ version, version ∉ given state ∧ grant next = marked.stamped version ∧
        given next = version :: given state := by
  intro next marked
  obtain ⟨called, read, known, carried, current⟩ := tracks
  rw [Node.mark_result] at accepted
  have left : next = _ := Node.mark_state client toggle copy state
  cases taken : (client.replaceBucketAccess (Node.marked toggle.action toggle.marker copy)
      state).result with
  | error cause =>
    rw [taken] at accepted
    cases accepted
  | ok stored =>
    obtain ⟨fits, outcome⟩ := laws.accepted state
      (Node.marked toggle.action toggle.marker copy) stored called taken
    obtain rfl : copy = grant state := current (fits read carried)
    simpa only [left] using outcome

/-- Marking a grant on which toggles were replayed replays one more. -/
theorem replayed_marked {initial stored : BucketAccess} {accepted : List Finalizer.Toggle}
    (replayed : stored = initial.remarked (Finalizer.replay accepted initial.metadata.finalizers)
      stored.metadata.resourceVersion) (toggle : Finalizer.Toggle) :
    Node.marked toggle.action toggle.marker stored =
      initial.remarked (Finalizer.replay (accepted ++ [toggle]) initial.metadata.finalizers)
        stored.metadata.resourceVersion := by
  rw [Finalizer.replay_snoc]
  exact congrArg (Node.marked toggle.action toggle.marker) replayed

/-- A mark keeps the law. If the toggle is refused nothing is stored; if it is
accepted at a new version, every other copy is out of date and stays so. -/
theorem mark_kept (laws : Optimistic client name grant given) {initial : BucketAccess}
    {shared : Shared σ Party} (party : Party) (toggle : Finalizer.Toggle)
    (kept : Kept name grant given initial shared) :
    Kept name grant given initial (mark client party toggle shared) := by
  cases held : shared.copies party with
  | none =>
    simp only [mark, held]
    exact kept
  | some copy =>
    cases answer : ((Node.mark client toggle.action toggle.marker copy).2 shared.state).result with
    | error error =>
      obtain ⟨sameGrant, sameGiven⟩ :=
        refused_mark_keeps laws shared.state toggle copy error answer
      simp only [mark, held, answer]
      exact handed_kept kept _ party none sameGrant sameGiven (by simp)
    | ok stored =>
      have marked := replayed_marked kept.replayed toggle
      simp only [mark, held, answer]
      rcases accepted_mark_stores laws shared.state toggle copy stored
        (kept.tracked party copy held) answer with
        ⟨unchanged, sameGrant, sameGiven⟩ | ⟨version, fresh, storedGrant, storedGiven⟩
      · have handed := handed_kept kept _ party none sameGrant sameGiven (by simp)
        refine ⟨?_, handed.tracked⟩
        simp only [sameGrant]
        exact unchanged.symm.trans marked
      · refine ⟨?_, fun other otherCopy otherHeld => ?_⟩
        · simp only [storedGrant, marked]
          rfl
        · simp only [storedGrant, storedGiven]
          have earlier : shared.copies other = some otherCopy := by
            by_cases marking : other = party
            · subst marking
              simp at otherHeld
            · simpa [marking] using otherHeld
          exact tracks_rewritten (kept.tracked other otherCopy earlier) _ version fresh

/-- Every move keeps the law. -/
theorem step_kept (laws : Optimistic client name grant given) {initial : BucketAccess}
    {shared : Shared σ Party} (move : Move Party)
    (kept : Kept name grant given initial shared) :
    Kept name grant given initial (step client name shared move) := by
  cases move with
  | fetch party => exact fetch_kept laws party kept
  | mark party toggle => exact mark_kept laws party toggle kept

/-- Moves in a row keep the law. -/
theorem run_kept (laws : Optimistic client name grant given) {initial : BucketAccess}
    {shared : Shared σ Party} (moves : List (Move Party))
    (kept : Kept name grant given initial shared) :
    Kept name grant given initial (run client name shared moves) := by
  induction moves generalizing shared with
  | nil => exact kept
  | cons move rest inductionHypothesis => exact inductionHypothesis (step_kept laws move kept)

end Laws

/-- However fetches and marks of any number of parties interleave, the stored grant
is the initial one with the accepted toggles replayed in the order in which they were
accepted; its version apart, nothing else of it has changed. A mark that a party
makes from there and that comes back with an error stores nothing.

Proof: by `run_kept`, from the law that holds before the first move. -/
theorem accepted_marks_kept (client : Client σ) (name : String) (grant : σ → BucketAccess)
    (given : σ → List String) (laws : Optimistic client name grant given) (state : σ)
    (moves : List (Move Party)) :
    let initial := grant state
    let final : Shared σ Party := run client name (start state) moves
    (grant final.state).finalizers =
      (Finalizer.replay final.accepted initial.metadata.finalizers).getD [] ∧
    (∃ version, grant final.state =
      { initial with
        metadata := { initial.metadata with
          finalizers := Finalizer.replay final.accepted initial.metadata.finalizers
          resourceVersion := version } }) ∧
    ∀ party toggle copy error, final.copies party = some copy →
      ((Node.mark client toggle.action toggle.marker copy).2 final.state).result = .error error →
        grant (mark client party toggle final).state = grant final.state ∧
          (mark client party toggle final).accepted = final.accepted := by
  intro initial final
  have kept : Kept name grant given initial final := run_kept laws moves (start_kept state)
  refine ⟨?_, ⟨_, kept.replayed⟩, fun party toggle copy error held refused => ?_⟩
  · rw [BucketAccess.finalizers, kept.replayed]
    rfl
  · simp only [mark, held, refused]
    exact ⟨(refused_mark_keeps laws final.state toggle copy error refused).1, trivial⟩

/-- Two parties fetch an unmarked grant and mark it one after the other. The second
one is refused and stores nothing; when it fetches and marks again both marks are
there. -/
theorem two_parties_both_marked :
    let refetched : List (Move Bool) := [.fetch true, .fetch false, .mark true ⟨.add, "a"⟩,
      .mark false ⟨.add, "b"⟩, .fetch false, .mark false ⟨.add, "b"⟩]
    let stale : Shared _ Bool :=
      run (Shelf.client "grant") "grant" (start Shelf.unmarked) (refetched.take 3)
    (mark (Shelf.client "grant") false ⟨.add, "b"⟩ stale).state.grant.finalizers = ["a"] ∧
      (run (Shelf.client "grant") "grant" (start Shelf.unmarked) refetched).state.grant.finalizers
        = ["a", "b"] := by
  intro refetched stale
  have laws := (Shelf.undisturbed "grant").toOptimistic
  obtain ⟨_, _, refused⟩ := accepted_marks_kept (Shelf.client "grant") "grant" _ _ laws
    Shelf.unmarked (refetched.take 3)
  obtain ⟨both, _, _⟩ := accepted_marks_kept (Shelf.client "grant") "grant" _ _ laws
    Shelf.unmarked refetched
  obtain ⟨kept, _⟩ := refused false ⟨.add, "b"⟩ Shelf.unmarked.grant
    (.update "bucketAccess" "grant" (.refused Shelf.conflict)) rfl rfl
  exact ⟨(congrArg BucketAccess.finalizers kept).trans rfl, both.trans rfl⟩

end BucketMount.Sharing
