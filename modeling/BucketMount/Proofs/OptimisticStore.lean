import BucketMount.Node.Client

/-!
# Stores with optimistic concurrency

Whoever writes a grant back has read it at some version, and the store takes the
writing only while this version is the current one. `Optimistic` states what is
relied on of a client that reaches such a store, with regard to one grant;
`Undisturbed` adds that the store never fails for another reason and leaves the
version alone when nothing changes. What else the store keeps, and what it answers
to requests for other objects, is left open.

`Shelf` is such a store of one grant. Its versions are numerals of strokes, one
stroke more for each change. That real versions are numbers is of no account: a
version is only ever compared with another one.
-/

namespace BucketMount

/-- A grant at a version. -/
def BucketAccess.stamped (access : BucketAccess) (version : String) : BucketAccess :=
  { access with metadata := { access.metadata with resourceVersion := some version } }

/-- A grant to be written carries no version, or the version of the stored one. -/
def BucketAccess.Fits (access stored : BucketAccess) : Prop :=
  ∀ version, access.metadata.resourceVersion = some version →
    stored.metadata.resourceVersion = some version

variable {σ : Type}

/-- A client reaches a store that keeps one grant under optimistic concurrency.

`grant` is the stored grant and `given` are the versions that it has had so far.
A fetch that succeeds hands out the stored grant. A writing that fails changes
nothing; one that succeeds fits the stored grant and puts the written one in its
place at a version that is new, unless the two are the same anyway. -/
structure Optimistic (client : Client σ) (name : String) (grant : σ → BucketAccess)
    (given : σ → List String) : Prop where
  named (state : σ) : (grant state).metadata.displayName = name
  versioned (state : σ) :
    ∃ version ∈ given state, (grant state).metadata.resourceVersion = some version
  fetched (state : σ) (found : Option BucketAccess) :
    (client.findBucketAccess name state).result = .ok found → found = some (grant state)
  fetch_keeps (state : σ) : grant (client.findBucketAccess name state).state = grant state ∧
    given (client.findBucketAccess name state).state = given state
  refusal_keeps (state : σ) (access : BucketAccess) (cause : ClientFailure) :
    (client.replaceBucketAccess access state).result = .error cause →
      grant (client.replaceBucketAccess access state).state = grant state ∧
        given (client.replaceBucketAccess access state).state = given state
  accepted (state : σ) (access answer : BucketAccess) :
    access.metadata.displayName = name →
      (client.replaceBucketAccess access state).result = .ok answer →
      access.Fits (grant state) ∧
        ((access = grant state ∧
            grant (client.replaceBucketAccess access state).state = grant state ∧
            given (client.replaceBucketAccess access state).state = given state) ∨
          ∃ version, version ∉ given state ∧
            grant (client.replaceBucketAccess access state).state = access.stamped version ∧
            given (client.replaceBucketAccess access state).state = version :: given state)

/-- The store never fails for another reason than a version that does not fit. It
hands back the grant as it is stored, and a writing that changes nothing leaves the
version as it is. -/
structure Undisturbed (client : Client σ) (name : String) (grant : σ → BucketAccess)
    (given : σ → List String) : Prop extends Optimistic client name grant given where
  answers (state : σ) : (client.findBucketAccess name state).result = .ok (some (grant state))
  takes (state : σ) (access : BucketAccess) :
    access.metadata.displayName = name → access.Fits (grant state) →
      (client.replaceBucketAccess access state).result =
        .ok (grant (client.replaceBucketAccess access state).state)
  conflicts (state : σ) (access : BucketAccess) :
    access.metadata.displayName = name → ¬ access.Fits (grant state) →
      ∃ refusal, (client.replaceBucketAccess access state).result = .error (.refused refusal) ∧
        refusal.code = 409
  idles (state : σ) :
    grant (client.replaceBucketAccess (grant state) state).state = grant state

/-! ## A store of one grant -/

/-- A numeral of strokes. -/
def strokes (count : Nat) : String := String.ofList (List.replicate count '1')

/-- Numerals with as many strokes are for the same number. -/
theorem strokes_inj (count other : Nat) : strokes count = strokes other ↔ count = other := by
  constructor
  · intro same
    have lists : List.replicate count '1' = List.replicate other '1' := String.ofList_inj.mp same
    simpa using congrArg List.length lists
  · rintro rfl
    rfl

/-- A grant that goes by a name, and how often it has changed. -/
structure Shelf (name : String) where
  contents : BucketAccess
  changes : Nat
  named : contents.metadata.displayName = name

namespace Shelf

variable {name : String}

/-- The grant as it is handed out, at its version. -/
def grant (shelf : Shelf name) : BucketAccess := shelf.contents.stamped (strokes shelf.changes)

/-- The versions up to a number of changes. -/
def versions : Nat → List String
  | 0 => [strokes 0]
  | count + 1 => strokes (count + 1) :: versions count

/-- The versions that the grant has had. -/
def given (shelf : Shelf name) : List String := versions shelf.changes

/-- The version after the last one is new. -/
theorem fresh (count later : Nat) (ahead : count < later) : strokes later ∉ versions count := by
  induction count with
  | zero =>
    simp only [versions, List.mem_singleton, strokes_inj]
    omega
  | succ count inductionHypothesis =>
    have earlier : strokes later ∉ versions count := inductionHypothesis (by omega)
    simp only [versions, List.mem_cons, strokes_inj, not_or]
    exact ⟨by omega, earlier⟩

/-- What the store says of a version that does not fit. -/
def conflict : ServerRefusal :=
  ⟨"Failure", "the object has been modified", "Conflict", 409⟩

/-- What the store says of another grant. -/
def unknown : ServerRefusal := ⟨"Failure", "not found", "NotFound", 404⟩

instance (access stored : BucketAccess) : Decidable (access.Fits stored) :=
  decidable_of_iff (access.metadata.resourceVersion = none ∨
      access.metadata.resourceVersion = stored.metadata.resourceVersion) (by
    cases carried : access.metadata.resourceVersion <;>
      simp [BucketAccess.Fits, carried, eq_comm])

/-- Writes a grant back. -/
def replace (access : BucketAccess) : Call (Shelf name) BucketAccess := fun shelf =>
  if called : access.metadata.displayName = name then
    if access.Fits shelf.grant then
      if access = shelf.grant then .quiet (.ok shelf.grant) shelf
      else
        let next : Shelf name := ⟨access, shelf.changes + 1, called⟩
        .quiet (.ok next.grant) next
    else .quiet (.error (.refused conflict)) shelf
  else .quiet (.error (.refused unknown)) shelf

/-- A writing comes to one of four things: another grant is unknown, a version that
does not fit is a conflict, the grant as it is stored is handed back, and any other
one is put in its place with one change more. -/
theorem replace_cases (access : BucketAccess) (shelf : Shelf name) :
    (access.metadata.displayName ≠ name ∧
      replace access shelf = .quiet (.error (.refused unknown)) shelf) ∨
    (access.metadata.displayName = name ∧ ¬ access.Fits shelf.grant ∧
      replace access shelf = .quiet (.error (.refused conflict)) shelf) ∨
    (access.Fits shelf.grant ∧ access = shelf.grant ∧
      replace access shelf = .quiet (.ok shelf.grant) shelf) ∨
    (access.Fits shelf.grant ∧ access ≠ shelf.grant ∧
      ∃ called, replace access shelf =
        .quiet (.ok (access.stamped (strokes (shelf.changes + 1))))
          ⟨access, shelf.changes + 1, called⟩) := by
  unfold replace
  by_cases called : access.metadata.displayName = name
  · rw [dif_pos called]
    by_cases fits : access.Fits shelf.grant
    · rw [if_pos fits]
      by_cases same : access = shelf.grant
      · rw [if_pos same]
        exact .inr (.inr (.inl ⟨fits, same, rfl⟩))
      · rw [if_neg same]
        exact .inr (.inr (.inr ⟨fits, same, called, rfl⟩))
    · rw [if_neg fits]
      exact .inr (.inl ⟨called, fits, rfl⟩)
  · rw [dif_neg called]
    exact .inl ⟨called, rfl⟩

/-- The client of a shelf, on which there is nothing but the grant. -/
def client (name : String) : Client (Shelf name) where
  findBucketAccessRequest _ _ := .quiet (.ok none)
  findBucketAccess wanted := fun shelf =>
    .quiet (.ok (if wanted = name then some shelf.grant else none)) shelf
  findBucketRequest _ _ := .quiet (.ok none)
  findBucket _ := .quiet (.ok none)
  findSecret _ _ := .quiet (.ok none)
  replaceBucketAccess := replace

/-- A shelf is a store with optimistic concurrency that is never disturbed. -/
theorem undisturbed (name : String) :
    Undisturbed (client name) name grant given where
  named shelf := shelf.named
  versioned shelf := by
    refine ⟨strokes shelf.changes, ?_, rfl⟩
    cases count : shelf.changes <;> simp [given, versions, count]
  fetched shelf found := by
    simp [client, Reply.quiet, eq_comm]
  fetch_keeps shelf := ⟨rfl, rfl⟩
  refusal_keeps shelf access cause refused := by
    rcases replace_cases access shelf with ⟨_, reply⟩ | ⟨_, _, reply⟩ | ⟨_, _, reply⟩ |
      ⟨_, _, _, reply⟩
    · simp [client, reply, Reply.quiet]
    · simp [client, reply, Reply.quiet]
    · simp [client, reply, Reply.quiet] at refused
    · simp [client, reply, Reply.quiet] at refused
  accepted shelf access answer called taken := by
    rcases replace_cases access shelf with ⟨other, _⟩ | ⟨_, _, reply⟩ | ⟨fits, same, reply⟩ |
      ⟨fits, _, _, reply⟩
    · exact absurd called other
    · simp [client, reply, Reply.quiet] at taken
    · exact ⟨fits, .inl ⟨same, by simp [client, reply, Reply.quiet]⟩⟩
    · refine ⟨fits, .inr ⟨strokes (shelf.changes + 1), fresh _ _ (Nat.lt_succ_self _), ?_⟩⟩
      simp [client, reply, Reply.quiet, grant, given, versions]
  answers shelf := by simp [client, Reply.quiet]
  takes shelf access called fits := by
    rcases replace_cases access shelf with ⟨other, _⟩ | ⟨_, misfits, _⟩ | ⟨_, _, reply⟩ |
      ⟨_, _, _, reply⟩
    · exact absurd called other
    · exact absurd fits misfits
    · simp [client, reply, Reply.quiet]
    · simp [client, reply, Reply.quiet, grant]
  conflicts shelf access called misfits := by
    rcases replace_cases access shelf with ⟨other, _⟩ | ⟨_, _, reply⟩ | ⟨fits, _⟩ | ⟨fits, _⟩
    · exact absurd called other
    · exact ⟨conflict, by simp [client, reply, Reply.quiet], rfl⟩
    · exact absurd fits misfits
    · exact absurd fits misfits
  idles shelf := by
    rcases replace_cases shelf.grant shelf with ⟨other, _⟩ | ⟨_, _, reply⟩ | ⟨_, _, reply⟩ |
      ⟨_, changed, _⟩
    · exact absurd shelf.named other
    · simp [client, reply, Reply.quiet]
    · simp [client, reply, Reply.quiet]
    · exact absurd rfl changed

/-- A shelf with a grant in force that nobody has marked yet. -/
def unmarked : Shelf "grant" :=
  ⟨⟨{ Metadata.empty with name := some "grant" }, BucketAccessSpec.record.initial, some ⟨true⟩⟩,
    0, rfl⟩

end Shelf

end BucketMount
