import Mathlib.Data.List.Induction
import Mathlib.Logic.Function.Basic
import BucketMount.Proofs.HeldGrant

/-!
# Marking a grant while updates fail

A node changes its handle on a grant before it writes the grant back. So every writing
that fails leaves the handle ahead of the store, by this toggle and by all that failed in
front of it. The next writing that passes brings the store up to the handle, whichever
toggle it belongs to. `failing_updates_converge` says what the handle, the store and the
answers are behind any row of toggles.

Which writings fail is left to the client: nothing is assumed of a failure but that it
changes nothing. Versions are of no account here; that a store may refuse a handle for good
because its version is outdated is another matter.
-/

namespace BucketMount.Handle

variable {σ τ : Type}

/-- A client reaches a store that takes writings or fails, at its own discretion. `stored`
are the grants that it keeps, by their names. A writing that fails changes nothing; one
that passes puts the grant under its name and hands it back. -/
structure Faltering (client : Client σ) (stored : σ → String → Option BucketAccess) : Prop where
  refusal_keeps (state : σ) (access : BucketAccess) (cause : ClientFailure) :
    (client.replaceBucketAccess access state).result = .error cause →
      stored (client.replaceBucketAccess access state).state = stored state
  accepted (state : σ) (access answered : BucketAccess) :
    (client.replaceBucketAccess access state).result = .ok answered →
      answered = access ∧ stored (client.replaceBucketAccess access state).state =
        Function.update (stored state) access.metadata.displayName (some access)

/-- Recording the calls makes no difference to what is stored. -/
theorem Faltering.recorded {client : Client σ} {stored : σ → String → Option BucketAccess}
    (laws : Faltering client stored) :
    Faltering client.recorded (fun (state, _) => stored state) where
  refusal_keeps := fun (state, _) => laws.refusal_keeps state
  accepted := fun (state, _) => laws.accepted state

/-- Every toggle of a row fails. -/
def Refused (client : Client σ) : Held σ → List Finalizer.Toggle → Prop
  | _, [] => True
  | held, toggle :: rest =>
    (∃ failure, answer client held toggle = .error failure) ∧
      Refused client (next client held toggle) rest

/-- What a toggle comes to: the handle's copy behind it, the grants that are stored then,
and the answer. -/
def settled (client : Client σ) (stored : σ → String → Option BucketAccess) (held : Held σ)
    (toggle : Finalizer.Toggle) :
    BucketAccess × (String → Option BucketAccess) × Except NodeError BucketAccess :=
  ((next client held toggle).copy, stored (next client held toggle).state,
    answer client held toggle)

/-- A toggle behind others starts from the handle that they leave. -/
theorem run_snoc (client : Client σ) (held : Held σ) (toggles : List Finalizer.Toggle)
    (toggle : Finalizer.Toggle) :
    run client held (toggles ++ [toggle]) = next client (run client held toggles) toggle := by
  simp only [run, List.foldl_append, List.foldl_cons, List.foldl_nil]

/-- The handle's copy has had every toggle applied to its markers, whatever came of the
writings, and nothing else of it has changed.

The induction takes toggles off the back, since each is applied to what the others leave. -/
theorem run_copy (client : Client σ) (held : Held σ) (toggles : List Finalizer.Toggle) :
    (run client held toggles).copy =
      held.copy.remarked (Finalizer.replay toggles held.copy.metadata.finalizers)
        held.copy.metadata.resourceVersion := by
  induction toggles using List.reverseRecOn with
  | nil => rfl
  | append_singleton toggles toggle inductionHypothesis =>
    have marked : (run client held (toggles ++ [toggle])).copy =
        Node.marked toggle.action toggle.marker (run client held toggles).copy := by
      rw [run_snoc]
      rfl
    rw [marked, Node.marked_eq, inductionHypothesis, Finalizer.replay_snoc]
    rfl

/-- The handle goes by one name all along. -/
theorem run_named (client : Client σ) (held : Held σ) (toggles : List Finalizer.Toggle) :
    (run client held toggles).copy.metadata.displayName = held.copy.metadata.displayName := by
  rw [run_copy]
  rfl

/-- A toggle makes one call, which writes the whole marked copy. -/
theorem next_recorded (client : Client σ) (held : Held (σ × List CallRecord))
    (toggle : Finalizer.Toggle) :
    (next client.recorded held toggle).state =
      ((client.replaceBucketAccess (next client.recorded held toggle).copy held.state.1).state,
        held.state.2 ++ [.replace (next client.recorded held toggle).copy]) :=
  next_state client.recorded held toggle

section Laws

variable {client : Client σ} {stored : σ → String → Option BucketAccess}

/-- A toggle either passes, and the marked copy is stored and handed back, or it fails with
the failure of its writing, and nothing is stored. -/
theorem next_cases (laws : Faltering client stored) (held : Held σ)
    (toggle : Finalizer.Toggle) :
    let left := next client held toggle
    let result := (client.replaceBucketAccess left.copy held.state).result
    (result = .ok left.copy ∧ answer client held toggle = .ok left.copy ∧
      stored left.state =
        Function.update (stored held.state) held.copy.metadata.displayName (some left.copy)) ∨
    ∃ cause, result = .error cause ∧
      answer client held toggle =
        .error (.update Kind.bucketAccess.word held.copy.metadata.displayName cause) ∧
      stored left.state = stored held.state := by
  intro left result
  have answered : answer client held toggle =
      result.mapError (.update Kind.bucketAccess.word held.copy.metadata.displayName) :=
    answer_eq client held toggle
  have behind : left.state = (client.replaceBucketAccess left.copy held.state).state :=
    next_state client held toggle
  cases reply : result with
  | ok written =>
    obtain ⟨rfl, kept⟩ := laws.accepted held.state left.copy written reply
    refine .inl ⟨rfl, ?_, ?_⟩
    · rw [answered, reply]
      rfl
    · rw [behind]
      exact kept
  | error cause =>
    refine .inr ⟨cause, rfl, ?_, ?_⟩
    · rw [answered, reply]
      rfl
    · rw [behind]
      exact laws.refusal_keeps held.state left.copy cause reply

/-- A toggle that passes stores the marked copy and hands it back. -/
theorem next_passed (laws : Faltering client stored) {held : Held σ} {toggle : Finalizer.Toggle}
    {answered : BucketAccess} (passed : answer client held toggle = .ok answered) :
    answer client held toggle = .ok (next client held toggle).copy ∧
      stored (next client held toggle).state =
        Function.update (stored held.state) held.copy.metadata.displayName
          (some (next client held toggle).copy) := by
  rcases next_cases laws held toggle with ⟨_, passes, kept⟩ | ⟨cause, _, failed, _⟩
  · exact ⟨passes, kept⟩
  · rw [failed] at passed
    cases passed

/-- A row of toggles that all fail stores nothing. -/
theorem refused_stored (laws : Faltering client stored) {held : Held σ}
    {toggles : List Finalizer.Toggle} (refused : Refused client held toggles) :
    stored (run client held toggles).state = stored held.state := by
  induction toggles generalizing held with
  | nil => rfl
  | cons toggle rest inductionHypothesis =>
    obtain ⟨⟨failure, failed⟩, others⟩ := refused
    have same : stored (next client held toggle).state = stored held.state := by
      rcases next_cases laws held toggle with ⟨_, passed, _⟩ | ⟨_, _, _, same⟩
      · rw [passed] at failed
        cases failed
      · exact same
    exact (inductionHypothesis others).trans same

/-- Either all toggles of a row fail, or there is a last one that passes. -/
theorem refused_or_last (client : Client σ) (held : Held σ) (toggles : List Finalizer.Toggle) :
    Refused client held toggles ∨
      ∃ before toggle after, toggles = before ++ toggle :: after ∧
        (∃ answered, answer client (run client held before) toggle = .ok answered) ∧
        Refused client (run client held (before ++ [toggle])) after := by
  induction toggles generalizing held with
  | nil => exact .inl trivial
  | cons toggle rest inductionHypothesis =>
    rcases inductionHypothesis (next client held toggle) with
      refused | ⟨before, last, after, rfl, passed, refused⟩
    · cases answered : answer client held toggle with
      | ok access => exact .inr ⟨[], toggle, rest, rfl, ⟨access, answered⟩, refused⟩
      | error failure => exact .inl ⟨⟨failure, answered⟩, refused⟩
    · exact .inr ⟨toggle :: before, last, after, rfl, passed, refused⟩

/-- Behind a row of toggles, the grants under other names are as they were, and the handle's
grant is as the handle was behind the last toggle that passed.

The grants that are stored are changed under one name only, so by the writings that pass
only the last one shows. -/
theorem run_elsewhere (laws : Faltering client stored) (held : Held σ)
    (toggles : List Finalizer.Toggle) (other : String)
    (elsewhere : other ≠ held.copy.metadata.displayName) :
    stored (run client held toggles).state other = stored held.state other := by
  induction toggles generalizing held with
  | nil => rfl
  | cons toggle rest inductionHypothesis =>
    have first : stored (next client held toggle).state other = stored held.state other := by
      rcases next_cases laws held toggle with ⟨_, _, kept⟩ | ⟨_, _, _, kept⟩
      · rw [kept, Function.update_of_ne elsewhere]
      · rw [kept]
    exact (inductionHypothesis (next client held toggle) elsewhere).trans first

/-- Behind a row of toggles of which one passes and all later ones fail, the handle's grant is
stored as the handle was behind the one that passes, and nothing else has changed. -/
theorem run_stored (laws : Faltering client stored) (held : Held σ)
    (before after : List Finalizer.Toggle) (toggle : Finalizer.Toggle)
    (passed : ∃ answered, answer client (run client held before) toggle = .ok answered)
    (refused : Refused client (run client held (before ++ [toggle])) after) :
    stored (run client held (before ++ toggle :: after)).state =
      Function.update (stored held.state) held.copy.metadata.displayName
        (some (run client held (before ++ [toggle])).copy) := by
  obtain ⟨_, passed⟩ := passed
  have whole : run client held (before ++ toggle :: after) =
      run client (run client held (before ++ [toggle])) after := by
    rw [List.append_cons, run, List.foldl_append]
    rfl
  have last := (next_passed laws passed).2
  rw [← run_snoc, run_named] at last
  rw [whole, refused_stored laws refused, last]
  funext name
  by_cases own : name = held.copy.metadata.displayName
  · rw [own, Function.update_self, Function.update_self]
  · rw [Function.update_of_ne own, Function.update_of_ne own, run_elsewhere laws held before name own]

/-- A toggle that is repeated until it passes comes to what it comes to on a client where it
passes at once. -/
theorem repeated_settled (laws : Faltering client stored) {steady : Client τ}
    {kept : τ → String → Option BucketAccess} (steadyLaws : Faltering steady kept)
    (held : Held σ) (other : τ) (toggle : Finalizer.Toggle) (failures : Nat)
    (same : kept other = stored held.state)
    (atOnce : ∃ answered, answer steady ⟨held.copy, other⟩ toggle = .ok answered)
    (refused : Refused client held (List.replicate failures toggle))
    (passed : ∃ answered,
      answer client (run client held (List.replicate failures toggle)) toggle = .ok answered) :
    settled client stored (run client held (List.replicate failures toggle)) toggle =
      settled steady kept ⟨held.copy, other⟩ toggle := by
  obtain ⟨_, passed⟩ := passed
  obtain ⟨_, atOnce⟩ := atOnce
  obtain ⟨answered, written⟩ := next_passed laws passed
  obtain ⟨answeredAtOnce, writtenAtOnce⟩ := next_passed steadyLaws atOnce
  -- The copies agree, since applying a toggle again changes nothing.
  have copies : (next client (run client held (List.replicate failures toggle)) toggle).copy =
      (next steady ⟨held.copy, other⟩ toggle).copy := by
    rw [← run_snoc, ← List.replicate_succ', run_copy, Finalizer.replay_repeated]
    rfl
  have stores : stored (next client (run client held (List.replicate failures toggle)) toggle).state =
      kept (next steady ⟨held.copy, other⟩ toggle).state := by
    rw [written, writtenAtOnce, refused_stored laws refused, run_named, copies, same]
  rw [settled, settled, answered, answeredAtOnce, copies, stores]

end Laws

/-- Marking a grant through one handle, whatever writings fail. Behind any row of toggles the
handle has had all of them applied to its markers, those that failed included, and nothing
else of it has changed. The grants that are stored are as they were if all toggles failed;
otherwise the handle's grant is stored as the handle was behind the last toggle that passed,
and nothing else has changed. The next toggle makes one call, which writes the whole handle.
If this passes, the stored grant is handed back, and if it fails, the toggle fails with the
kind and the name of the grant and the client's failure. A toggle that is repeated until it
passes leaves the same copy and the same stored grants, and is answered the same, as on any
client where it passes at once.

Proof: `run_copy` for the handle, `run_stored` behind the last toggle that passes,
`next_cases` for the next toggle, and `repeated_settled`, by which a toggle that is applied
again changes nothing. -/
theorem failing_updates_converge (client : Client σ)
    (stored : σ → String → Option BucketAccess) (laws : Faltering client stored)
    (access : BucketAccess) (state : σ × List CallRecord) (toggles : List Finalizer.Toggle) :
    let name := access.metadata.displayName
    let start : Held (σ × List CallRecord) := ⟨access, state⟩
    let reached := run client.recorded start toggles
    reached.copy =
      { access with
        metadata := { access.metadata with
          finalizers := Finalizer.replay toggles access.metadata.finalizers } } ∧
    (Refused client.recorded start toggles ∧ stored reached.state.1 = stored state.1 ∨
      ∃ before last after, toggles = before ++ last :: after ∧
        (∃ answered, answer client.recorded (run client.recorded start before) last =
          .ok answered) ∧
        Refused client.recorded (run client.recorded start (before ++ [last])) after ∧
        stored reached.state.1 = Function.update (stored state.1) name
          (some (run client.recorded start (before ++ [last])).copy)) ∧
    ∀ toggle,
      let left := next client.recorded reached toggle
      let reply := client.replaceBucketAccess left.copy reached.state.1
      left.state = (reply.state, reached.state.2 ++ [.replace left.copy]) ∧
      (reply.result = .ok left.copy ∧
          answer client.recorded reached toggle = .ok left.copy ∧
          stored left.state.1 = Function.update (stored reached.state.1) name (some left.copy) ∨
        ∃ cause, reply.result = .error cause ∧
          answer client.recorded reached toggle = .error (.update "bucketAccess" name cause) ∧
          stored left.state.1 = stored reached.state.1) ∧
      ∀ failures, Refused client.recorded reached (List.replicate failures toggle) →
        let tried := run client.recorded reached (List.replicate failures toggle)
        (∃ answered, answer client.recorded tried toggle = .ok answered) →
        ∀ (τ : Type) (steady : Client τ) (kept : τ → String → Option BucketAccess) (other : τ),
          Faltering steady kept → kept other = stored reached.state.1 →
          (∃ answered, answer steady ⟨reached.copy, other⟩ toggle = .ok answered) →
          settled client.recorded (fun (state, _) => stored state) tried toggle =
            settled steady kept ⟨reached.copy, other⟩ toggle := by
  intro name start reached
  have recorded := laws.recorded
  have called : reached.copy.metadata.displayName = name :=
    run_named client.recorded start toggles
  refine ⟨run_copy client.recorded start toggles, ?_, fun toggle => ?_⟩
  · rcases refused_or_last client.recorded start toggles with
      refused | ⟨before, last, after, rfl, passed, refused⟩
    · exact .inl ⟨refused, refused_stored recorded refused⟩
    · exact .inr ⟨before, last, after, rfl, passed, refused,
        run_stored recorded start before after last passed refused⟩
  · intro left reply
    refine ⟨next_recorded client reached toggle, ?_, ?_⟩
    · have cases := next_cases recorded reached toggle
      rw [called] at cases
      exact cases
    · intro failures refused tried passed τ steady kept other steadyLaws same atOnce
      exact repeated_settled recorded steadyLaws reached other toggle failures same atOnce refused
        passed

/-! ## A store that fails now and then -/

/-- Grants by their names, and which of the coming writings fail: those behind the end of
the list pass. -/
structure Drawer where
  grants : String → Option BucketAccess
  failing : List Bool

namespace Drawer

/-- Writes a grant back, unless it is the turn of a failure. -/
def replace (access : BucketAccess) : Call Drawer BucketAccess := fun drawer =>
  if drawer.failing.headD false then
    .quiet (.error (.unreachable "connection reset")) ⟨drawer.grants, drawer.failing.tail⟩
  else
    .quiet (.ok access) ⟨Function.update drawer.grants access.metadata.displayName (some access),
      drawer.failing.tail⟩

/-- The client of a drawer, in which there is nothing but grants. -/
def client : Client Drawer where
  findBucketAccessRequest _ _ := .quiet (.ok none)
  findBucketAccess name := fun drawer => .quiet (.ok (drawer.grants name)) drawer
  findBucketRequest _ _ := .quiet (.ok none)
  findBucket _ := .quiet (.ok none)
  findSecret _ _ := .quiet (.ok none)
  replaceBucketAccess := replace

/-- A drawer takes writings or fails. -/
theorem faltering : Faltering client grants where
  refusal_keeps drawer access cause refused := by
    by_cases fails : drawer.failing.headD false
    · simp only [client, replace, if_pos fails, Reply.quiet]
    · simp only [client, replace, if_neg fails, Reply.quiet, reduceCtorEq] at refused
  accepted drawer access answered taken := by
    by_cases fails : drawer.failing.headD false
    · simp only [client, replace, if_pos fails, Reply.quiet, reduceCtorEq] at taken
    · simp only [client, replace, if_neg fails, Reply.quiet, Except.ok.injEq] at taken ⊢
      exact ⟨taken.symm, trivial⟩

end Drawer

/-- A marker that is added at the third attempt, behind two that fail, is stored as if the
first attempt had passed. Here a marker was to be removed in front of it, which failed, too,
so this removal shows in the store together with the addition. -/
theorem marked_at_third_attempt :
    let grant := { Shelf.unmarked.contents with
      metadata := { Shelf.unmarked.contents.metadata with finalizers := some ["left", "kept"] } }
    let release : Finalizer.Toggle := ⟨.remove, "left"⟩
    let protect : Finalizer.Toggle := ⟨.add, bucketAccessFinalizer⟩
    let failing : Drawer := ⟨fun _ => some grant, [true, true, true]⟩
    let steady : Drawer := ⟨fun _ => some grant, []⟩
    let reached := run Drawer.client.recorded ⟨grant, (failing, [])⟩ [release]
    let tried := run Drawer.client.recorded reached [protect, protect]
    Faltering Drawer.client Drawer.grants ∧
      Refused Drawer.client.recorded reached [protect, protect] ∧
      settled Drawer.client.recorded (fun (drawer, _) => drawer.grants) tried protect =
        settled Drawer.client Drawer.grants ⟨reached.copy, steady⟩ protect ∧
      (tried.state.1.grants "grant").map (·.finalizers) = some ["left", "kept"] ∧
      ((next Drawer.client.recorded tried protect).state.1.grants "grant").map (·.finalizers) =
        some ["kept", bucketAccessFinalizer] := by
  intro grant release protect failing steady reached tried
  have refused : Refused Drawer.client.recorded reached [protect, protect] :=
    ⟨⟨_, rfl⟩, ⟨_, rfl⟩, trivial⟩
  refine ⟨Drawer.faltering, refused, ?_, rfl, rfl⟩
  exact ((failing_updates_converge Drawer.client Drawer.grants Drawer.faltering grant
    (failing, []) [release]).2.2 protect).2.2 2 refused ⟨_, rfl⟩ Drawer Drawer.client Drawer.grants
    steady Drawer.faltering rfl ⟨_, rfl⟩

end BucketMount.Handle
