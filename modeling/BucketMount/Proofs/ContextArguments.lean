import BucketMount.Proofs.CommandRuns
import BucketMount.Proofs.RewrittenFields

/-!
# The arguments that tell a volume context

A command line that resolves a volume context tells each entry in an argument of its own,
attached to the parameter by an equals sign. What is attached is split at its first equals
sign, so a value may hold more of them and may be empty, and so may a key. Entries are kept in
their order, also where a key is told again.

The arguments are scanned from left to right and each is checked where it is met. The first
one without an equals sign ends the reading, whatever stands behind it
(`readResolve_unsigned`); if there is none all entries are read (`readResolve_told`).
Other ways to write the arguments are not told of.
-/

namespace BucketMount.CommandLine

/-! ## Entries -/

/-- An entry tells the value of a key: they stand in front of its first equals sign and behind
it. -/
structure Tells (entry : String) (pair : String × String) : Prop where
  whole : entry = pair.1 ++ "=" ++ pair.2
  first : '=' ∉ pair.1.toList

/-- A text without an equals sign stands in front of the first one behind it. -/
theorem takeWhile_unequal {key : List Char} (first : '=' ∉ key) (rest : List Char) :
    (key ++ rest).takeWhile (· != '=') = key ++ rest.takeWhile (· != '=') := by
  refine List.takeWhile_append_of_pos fun character member => ?_
  exact bne_iff_ne.mpr fun same => first (same ▸ member)

/-- An entry is read as what it tells. -/
theorem Tells.read {entry : String} {pair : String × String} (told : Tells entry pair) :
    pair? entry = some pair := by
  obtain ⟨key, value⟩ := pair
  have characters : entry.toList = key.toList ++ '=' :: value.toList := by
    simp [told.whole, String.toList_append]
  have before : entry.toList.takeWhile (· != '=') = key.toList := by
    rw [characters, takeWhile_unequal told.first]
    simp
  simp only [pair?, before]
  simp [characters]

/-- An entry with an equals sign tells something. -/
theorem tells_of_sign {entry : String} (sign : '=' ∈ entry.toList) : ∃ pair, Tells entry pair := by
  obtain ⟨key, value, characters, first⟩ := List.eq_append_cons_of_mem sign
  refine ⟨(String.ofList key, String.ofList value), ?_, by simpa using first⟩
  rw [← String.toList_inj]
  simp [characters, String.toList_append]

/-- An entry without an equals sign is not read. -/
theorem pair?_unread {entry : String} (sign : '=' ∉ entry.toList) : pair? entry = none := by
  have before : entry.toList.takeWhile (· != '=') = entry.toList := by
    simpa using takeWhile_unequal sign []
  simp [pair?, before]

/-! ## Arguments -/

/-- The arguments that resolve a volume context with these entries. -/
def resolving (entries : List String) : List String :=
  "resolve" :: entries.map ("--context=" ++ ·)

/-- The entries that have been met. -/
def met (entries : List String) : Matches := ⟨entries.map (contextParameter.long, ·), none⟩

/-- All values that have been met are those of the entries. -/
theorem met_all (entries : List String) : (met entries).all contextParameter.long = entries := by
  have all : ∀ value ∈ entries.map (contextParameter.long, ·),
      (value.1 == contextParameter.long) = true := by simp
  rw [Matches.all, met, List.filter_eq_self.mpr all, List.map_map]
  exact List.map_id entries

/-- An argument with an entry is checked, and kept behind the earlier ones, where it is met. -/
theorem scan_entry (earlier : List String) (entry : String) (arguments : List String) :
    resolveLevel.scan false (met earlier) (("--context=" ++ entry) :: arguments) =
      match pairComplaint? entry with
      | some complaint => .error (.usage (.badValue entry "--context <CONTEXT>" complaint))
      | none => resolveLevel.scan false (met (earlier ++ [entry])) arguments := by
  have characters : ("--context=" ++ entry).toList =
      '-' :: '-' :: 'c' :: 'o' :: 'n' :: 't' :: 'e' :: 'x' :: 't' :: '=' :: entry.toList := by
    simp [String.toList_append]
  have kept : Level.meet (met earlier) contextParameter (some entry) =
      match pairComplaint? entry with
      | some complaint => .error (.usage (.badValue entry "--context <CONTEXT>" complaint))
      | none => .ok (met (earlier ++ [entry])) := by
    cases complained : pairComplaint? entry <;>
      simp [Level.meet, Parameter.takesValue, contextParameter, Matches.settle, Matches.store,
        Parameter.shown, met, complained, bind, Except.bind]
  simp only [Level.scan, characters]
  have meets : resolveLevel.meetLong (met earlier)
      ('c' :: 'o' :: 'n' :: 't' :: 'e' :: 'x' :: 't' :: '=' :: entry.toList) =
        Level.meet (met earlier) contextParameter (some entry) := by
    simp [Level.meetLong, resolveLevel, contextParameter]
  simp only [meets, kept]
  cases pairComplaint? entry <;> simp [Matches.awaits, met, resolveLevel, bind, Except.bind]

/-- Entries with equals signs are kept in their order, and the scan goes on behind them. -/
theorem scan_signed {entries : List String} (signed : ∀ entry ∈ entries, '=' ∈ entry.toList)
    (earlier arguments : List String) :
    resolveLevel.scan false (met earlier) (entries.map ("--context=" ++ ·) ++ arguments) =
      resolveLevel.scan false (met (earlier ++ entries)) arguments := by
  induction entries generalizing earlier with
  | nil => simp
  | cons entry rest inductionHypothesis =>
    obtain ⟨sign, others⟩ := List.forall_mem_cons.mp signed
    obtain ⟨pair, told⟩ := tells_of_sign sign
    have passes : pairComplaint? entry = none := by simp only [pairComplaint?, told.read]
    rw [List.map_cons, List.cons_append, scan_entry, passes]
    simpa using inductionHypothesis others (earlier ++ [entry])

/-- Entries with equals signs tell a value each. -/
theorem tell_of_signed {entries : List String} (signed : ∀ entry ∈ entries, '=' ∈ entry.toList) :
    ∃ pairs, List.Forall₂ Tells entries pairs := by
  induction entries with
  | nil => exact ⟨[], .nil⟩
  | cons entry rest inductionHypothesis =>
    obtain ⟨sign, others⟩ := List.forall_mem_cons.mp signed
    obtain ⟨pair, told⟩ := tells_of_sign sign
    obtain ⟨pairs, rest⟩ := inductionHypothesis others
    exact ⟨pair :: pairs, .cons told rest⟩

/-- Entries that tell something are read as what they tell. -/
theorem filterMap_pair? {entries : List String} {pairs : List (String × String)}
    (told : List.Forall₂ Tells entries pairs) : entries.filterMap pair? = pairs := by
  induction told with
  | nil => rfl
  | cons first _ inductionHypothesis => rw [List.filterMap_cons, first.read, inductionHypothesis]

/-- The arguments behind the command's name are read as the context that they tell. -/
theorem readResolve_told {entries : List String} {pairs : List (String × String)}
    (signed : ∀ entry ∈ entries, '=' ∈ entry.toList) (told : List.Forall₂ Tells entries pairs) :
    readResolve (entries.map ("--context=" ++ ·)) = .ok (.resolve pairs) := by
  have scanned := scan_signed signed [] []
  rw [List.append_nil, Level.scan, List.nil_append] at scanned
  have settled : (met entries).settle = .ok (met entries) := rfl
  simp only [readResolve, show Matches.none = met [] from rfl, scanned, settled, met_all, bind,
    Except.bind, pure, Except.pure, filterMap_pair? told]

/-- The first entry without an equals sign ends the reading. -/
theorem readResolve_unsigned {before : List String} {entry : String}
    (signed : ∀ entry ∈ before, '=' ∈ entry.toList) (sign : '=' ∉ entry.toList)
    (after : List String) :
    readResolve ((before ++ entry :: after).map ("--context=" ++ ·)) =
      .error (.usage (.badValue entry "--context <CONTEXT>"
        ("expected key=value, got " ++ Text.quoted entry))) := by
  have complained : pairComplaint? entry =
      some ("expected key=value, got " ++ Text.quoted entry) := by
    simp only [pairComplaint?, pair?_unread sign]
  simp only [readResolve, show Matches.none = met [] from rfl, List.map_append, List.map_cons,
    scan_signed signed, scan_entry, complained, bind, Except.bind]

/-! ## Runs -/

variable {σ : Type}

/-- The command is found in front of its arguments. -/
theorem scan_resolving (entries : List String) :
    topLevel.scan false .none (resolving entries) =
      .ok (.none, some ("resolve", entries.map ("--context=" ++ ·))) := rfl

/-- A run with arguments that tell a context resolves it. It prints what this comes to, or
complains about it, and leaves behind what it leaves behind. -/
theorem run_resolving {surroundings : Surroundings} (ready : surroundings.Ready)
    {entries : List String} {pairs : List (String × String)}
    (signed : ∀ entry ∈ entries, '=' ∈ entry.toList) (told : List.Forall₂ Tells entries pairs)
    (transport : Http.Transport σ) (state : σ) :
    let outcome := resolve (Http.client transport) pairs state
    let report := run (resolving entries) surroundings transport state
    report.state = outcome.state ∧
      (∀ document, outcome.result = .ok document → report.exitCode = 0 ∧
        report.output = document.indentedText ++ "\n" ∧ report.complaint = none) ∧
      ∀ failure, outcome.result = .error failure → report.exitCode = 1 ∧ report.output = "" ∧
        report.complaint = some (Complaint.ofError failure).text := by
  intro outcome report
  have commanded : readCommand (some ("resolve", entries.map ("--context=" ++ ·))) =
      .ok (some (.resolve pairs)) := by
    rw [readCommand, readResolve_told signed told]
    rfl
  obtain ⟨left, passes, fails⟩ :=
    run_command ready (scan_resolving entries) commanded transport state
  refine ⟨left, fun document passed => passes _ ?_, fun failure failed => fails _ ?_⟩
  · simp only [perform, Effect.ofOutcome, outcome] at passed ⊢
    rw [passed]
    rfl
  · simp only [perform, Effect.ofOutcome, outcome] at failed ⊢
    rw [failed]
    rfl

/-- A run with an entry without an equals sign complains about the first such entry, whatever the
surroundings are, and does nothing else. -/
theorem run_unsigned {before : List String} {entry : String}
    (signed : ∀ entry ∈ before, '=' ∈ entry.toList) (sign : '=' ∉ entry.toList)
    (after : List String) (surroundings : Surroundings) (transport : Http.Transport σ) (state : σ) :
    run (resolving (before ++ entry :: after)) surroundings transport state =
      ⟨2, "", [], some ("error: invalid value '" ++ Text.visible entry ++
        "' for '--context <CONTEXT>': expected key=value, got " ++ Text.quoted entry), state⟩ := by
  have refused :
      readCommand (some ("resolve", (before ++ entry :: after).map ("--context=" ++ ·))) =
        .error (.usage (.badValue entry "--context <CONTEXT>"
          ("expected key=value, got " ++ Text.quoted entry))) := by
    rw [readCommand, readResolve_unsigned signed sign]
    rfl
  have line : (UsageError.badValue entry "--context <CONTEXT>"
      ("expected key=value, got " ++ Text.quoted entry)).line =
        "error: invalid value '" ++ Text.visible entry ++ "' for '" ++ "--context <CONTEXT>" ++
          "': " ++ ("expected key=value, got " ++ Text.quoted entry) := rfl
  have joined : "error: invalid value '" ++ Text.visible entry ++ "' for '" ++
      "--context <CONTEXT>" ++ "': " ++ ("expected key=value, got " ++ Text.quoted entry) =
        "error: invalid value '" ++ Text.visible entry ++
          "' for '--context <CONTEXT>': expected key=value, got " ++ Text.quoted entry := by
    rw [← String.toList_inj]
    simp only [String.toList_append, List.append_assoc]
    simp
  rw [run_refused (read_refused (scan_resolving _) refused), line, joined]

end BucketMount.CommandLine
