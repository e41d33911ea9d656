import BucketMount.CommandLine.Run

/-!
# Runs that get as far as their command

A command line that begins with a command says nothing of the settings, so these are what an
empty one leaves them: the usual ones, or those of the environment. Once they can be read and a
client can be prepared, the run comes to what the command comes to (`run_command`).

Settings in front of a command are not told of.
-/

namespace BucketMount.CommandLine

variable {σ : Type}

/-- Surroundings in which every command gets as far as its client: the variables that are set
can be read, and a client can be prepared for the configuration that is found. -/
structure Surroundings.Ready (surroundings : Surroundings) : Prop where
  settings : ∃ settings, read [] surroundings.environment = .ok settings
  connects (timeouts : Timeouts) : ∃ configuration,
    (Configuration.connectFound surroundings.found timeouts).1 = .ok configuration

/-- Surroundings with a server and nothing else. -/
def plainSurroundings : Surroundings :=
  ⟨[], none, .ok (.ofServer ⟨some "http", "localhost", ⟨"/", none⟩⟩ none)⟩

/-- A command line that begins with the command asks for no manifests, and for the settings
that an empty one asks for. -/
theorem read_command {environment : List (String × String)} {arguments : List String}
    {rest : Option (String × List String)} {command : Option Command}
    (scanned : topLevel.scan false .none arguments = .ok (.none, rest))
    (commanded : readCommand rest = .ok command) :
    read arguments environment = (read [] environment).map fun settings =>
      { settings with manifests := false, command := command } := by
  have nothing : topLevel.scan false .none [] = .ok (.none, none) := rfl
  have noCommand : readCommand none = .ok none := rfl
  have settled : Matches.none.settle = .ok .none := rfl
  simp only [read, scanned, commanded, nothing, noCommand, settled, bind, Except.bind, pure,
    Except.pure]
  cases flagOf .none treeLogParameter (setting? environment "COSI_NODE_LOG_JSON") with
  | error stop => rfl
  | ok treeLog =>
    cases numberOf .none connectParameter
        (setting? environment "COSI_NODE_CONNECT_TIMEOUT_SECS") 5 with
    | error stop => rfl
    | ok connect =>
      cases numberOf .none readParameter (setting? environment "COSI_NODE_READ_TIMEOUT_SECS") 30 <;>
        rfl

/-- A command whose own arguments make no sense ends the reading, whatever the environment is. -/
theorem read_refused {environment : List (String × String)} {arguments : List String}
    {rest : Option (String × List String)} {stop : Stop}
    (scanned : topLevel.scan false .none arguments = .ok (.none, rest))
    (refused : readCommand rest = .error stop) :
    read arguments environment = .error stop := by
  simp only [read, scanned, refused, bind, Except.bind]

/-- A run whose arguments make no sense says so, prints nothing and does nothing. -/
theorem run_refused {surroundings : Surroundings} {arguments : List String} {error : UsageError}
    (refused : read arguments surroundings.environment = .error (.usage error))
    (transport : Http.Transport σ) (state : σ) :
    run arguments surroundings transport state = ⟨2, "", [], some error.line, state⟩ := by
  simp only [run, refused]

/-- A run with a command prints what the command comes to, or complains about it, and leaves
behind what the command leaves behind. -/
theorem run_command {surroundings : Surroundings} (ready : surroundings.Ready)
    {arguments : List String} {rest : Option (String × List String)} {command : Command}
    (scanned : topLevel.scan false .none arguments = .ok (.none, rest))
    (commanded : readCommand rest = .ok (some command)) (transport : Http.Transport σ)
    (state : σ) :
    let effect := perform (Http.client transport) command state
    let report := run arguments surroundings transport state
    report.state = effect.state ∧
      (∀ output, effect.result = .ok output →
        report.exitCode = 0 ∧ report.output = output ∧ report.complaint = none) ∧
      ∀ complaint, effect.result = .error complaint →
        report.exitCode = 1 ∧ report.output = "" ∧ report.complaint = some complaint.text := by
  intro effect report
  obtain ⟨settings, readable⟩ := ready.settings
  let timeouts : Timeouts := ⟨1000 * settings.connectSeconds, 1000 * settings.readSeconds⟩
  obtain ⟨configuration, connected⟩ := ready.connects timeouts
  obtain ⟨events, connects⟩ : ∃ events,
      Configuration.connectFound surroundings.found timeouts = (.ok configuration, events) :=
    ⟨_, Prod.ext connected rfl⟩
  have executed : execute { settings with manifests := false, command := some command }
      surroundings.found transport state = effect.behind events := by
    simp only [execute, performFound, connects, timeouts]
    rfl
  have reached : report = run arguments surroundings transport state := rfl
  rw [run, read_command scanned commanded, readable] at reached
  simp only [Except.map, executed, Effect.behind] at reached
  cases result : effect.result with
  | ok output => simp [reached, result]
  | error complaint => simp [reached, result]

end BucketMount.CommandLine
