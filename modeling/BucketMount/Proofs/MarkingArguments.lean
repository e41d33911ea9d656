import BucketMount.Proofs.CommandRuns
import BucketMount.Proofs.MarkerSteps

/-!
# The arguments that mark a grant

A command line that adds a marker to a grant or removes one names the grant and the
marker, each attached to its parameter by an equals sign. A value that is attached is taken
as it is, whatever it is made of: one that begins with hyphens or is the name of a command is
not taken for one. `run_marking` says what a run with these arguments does.

The variables of the environment are assumed to make sense, and the configuration that is
found to be one that a client can be prepared for. Other ways to write the arguments are not
told of.
-/

namespace BucketMount.CommandLine

variable {σ : Type}

/-- The word for an action on the command line. -/
def actionWord : Finalizer.Action → String
  | .add => "add"
  | .remove => "remove"

/-- The arguments that apply a toggle to the grant of a name. -/
def marking (name : String) (toggle : Finalizer.Toggle) : List String :=
  ["finalizer", actionWord toggle.action, "--access=" ++ name, "--finalizer=" ++ toggle.marker]

/-- Both parameters are met with their values attached. -/
theorem scan_parameters (name marker : String) :
    actionLevel.scan false .none ["--access=" ++ name, "--finalizer=" ++ marker] =
      .ok (⟨[("access", name), ("finalizer", marker)], none⟩, none) := by
  have access : ("--access=" ++ name).toList =
      '-' :: '-' :: 'a' :: 'c' :: 'c' :: 'e' :: 's' :: 's' :: '=' :: name.toList := by
    simp [String.toList_append]
  have finalizer : ("--finalizer=" ++ marker).toList = '-' :: '-' :: 'f' :: 'i' :: 'n' :: 'a' ::
      'l' :: 'i' :: 'z' :: 'e' :: 'r' :: '=' :: marker.toList := by
    simp [String.toList_append]
  simp only [Level.scan, access, finalizer]
  simp [Matches.awaits, Matches.none, actionLevel, Level.meetLong, accessParameter,
    markerParameter, helpParameter, Level.meet, Parameter.takesValue, Matches.settle,
    Matches.store, Matches.has, bind, Except.bind]

/-- The arguments of an action are read as the grant and the marker that they name. -/
theorem readAction_parameters (action : Finalizer.Action) (name marker : String) :
    readAction action ["--access=" ++ name, "--finalizer=" ++ marker] =
      .ok (.finalizer action name marker) := by
  rw [readAction, scan_parameters]
  simp [Matches.settle, Matches.all, accessParameter, markerParameter, bind, Except.bind, pure,
    Except.pure]

/-- The arguments behind the command's name are read as the toggle. -/
theorem readFinalizer_marking (name : String) (toggle : Finalizer.Toggle) :
    readFinalizer (marking name toggle).tail =
      .ok (.finalizer toggle.action name toggle.marker) := by
  obtain ⟨action, marker⟩ := toggle
  cases action with
  | add => exact readAction_parameters .add name marker
  | remove => exact readAction_parameters .remove name marker

/-- A run with the arguments that apply a toggle marks the grant. It prints what this comes
to, or complains about it, and leaves behind what it leaves behind. -/
theorem run_marking {surroundings : Surroundings} (ready : surroundings.Ready)
    (transport : Http.Transport σ) (name : String) (toggle : Finalizer.Toggle) (state : σ) :
    let effect := mark (Http.client transport) toggle.action name toggle.marker state
    let report := run (marking name toggle) surroundings transport state
    report.state = effect.state ∧
      (∀ output, effect.result = .ok output →
        report.exitCode = 0 ∧ report.output = output ∧ report.complaint = none) ∧
      ∀ complaint, effect.result = .error complaint →
        report.exitCode = 1 ∧ report.output = "" ∧ report.complaint = some complaint.text := by
  have scanned : topLevel.scan false .none (marking name toggle) =
      .ok (.none, some ("finalizer", (marking name toggle).tail)) := rfl
  have commanded : readCommand (some ("finalizer", (marking name toggle).tail)) =
      .ok (some (.finalizer toggle.action name toggle.marker)) := by
    rw [readCommand, readFinalizer_marking]
    rfl
  exact run_command ready scanned commanded transport state

end BucketMount.CommandLine
