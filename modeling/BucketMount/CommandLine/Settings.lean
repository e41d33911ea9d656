import BucketMount.CommandLine.Scan
import BucketMount.Finalizer

/-!
# The command line of a node

There are two commands: to resolve a volume context to its bucket, and to add or
remove a finalizer on a grant. Before the command stand settings that hold for
both. Three of them can be given by variables of the environment as well; an
argument has precedence over a variable.

The arguments of the command are judged before what is left to judge of the
settings, and the variables after both.
-/

namespace BucketMount.CommandLine

/-- What the user wants done. -/
inductive Command where
  | resolve (context : List (String × String))
  | finalizer (action : Finalizer.Action) (access marker : String)
  deriving DecidableEq, Repr

/-- What a command line asks for. Waiting times are in seconds. -/
structure Settings where
  manifests : Bool
  treeLog : Bool
  connectSeconds : Nat
  readSeconds : Nat
  command : Option Command
  deriving DecidableEq, Repr

/-- The request for help. -/
def helpParameter : Parameter := ⟨"help", some 'h', .help, fun _ => none⟩

/-- The request for the version. -/
def versionParameter : Parameter := ⟨"version", some 'V', .version, fun _ => none⟩

/-- The request for the manifests. -/
def manifestsParameter : Parameter := ⟨"crd", none, .nothing, fun _ => none⟩

/-- The choice of events as trees. -/
def treeLogParameter : Parameter := ⟨"log-json", none, .nothing, fun _ => none⟩

/-- How many seconds to wait for a connection. -/
def connectParameter : Parameter :=
  ⟨"connect-timeout-secs", none, .value "CONNECT_TIMEOUT_SECS", numberComplaint?⟩

/-- How many seconds to wait for an answer. -/
def readParameter : Parameter :=
  ⟨"read-timeout-secs", none, .value "READ_TIMEOUT_SECS", numberComplaint?⟩

/-- An entry of the volume context. -/
def contextParameter : Parameter := ⟨"context", some 'c', .values "CONTEXT", pairComplaint?⟩

/-- The name of the grant. -/
def accessParameter : Parameter := ⟨"access", none, .value "ACCESS", fun _ => none⟩

/-- The finalizer. -/
def markerParameter : Parameter := ⟨"finalizer", none, .value "FINALIZER", fun _ => none⟩

/-- The word that asks for help in place of a command. -/
def helpCommand : String := "help"

/-- The settings that hold for all commands. -/
def topLevel : Level :=
  ⟨[manifestsParameter, treeLogParameter, connectParameter, readParameter, helpParameter,
    versionParameter], ["resolve", "finalizer", helpCommand]⟩

/-- The parameters of the command that resolves. -/
def resolveLevel : Level := ⟨[contextParameter, helpParameter], []⟩

/-- The actions on a finalizer. -/
def finalizerLevel : Level := ⟨[helpParameter], ["add", "remove", helpCommand]⟩

/-- The parameters of an action on a finalizer. -/
def actionLevel : Level := ⟨[accessParameter, markerParameter, helpParameter], []⟩

/-- The line that describes the actions on a finalizer. -/
def finalizerDescription : String := "Add or remove a finalizer on a BucketAccess"

/-- The level behind a command of a level. Nothing stands behind the request for
help, and nothing behind an action but its parameters. -/
def inside : String → Level
  | "resolve" => resolveLevel
  | "finalizer" => finalizerLevel
  | "add" | "remove" => actionLevel
  | _ => ⟨[], []⟩

/-- Asks for help on a command within a level, named by the way to it. -/
def helpOn (level : Level) : List String → Stop
  | [] => .help
  | name :: rest =>
    if level.commands.contains name then helpOn (inside name) rest
    else .usage (.unknownCommand name)

/-- Reads the arguments of the command that resolves. -/
def readResolve (arguments : List String) : Except Stop Command := do
  let (found, _) ← resolveLevel.scan false .none arguments
  let settled ← found.settle
  pure (.resolve ((settled.all contextParameter.long).filterMap pair?))

/-- Reads the arguments of an action on a finalizer. -/
def readAction (action : Finalizer.Action) (arguments : List String) : Except Stop Command := do
  let (found, _) ← actionLevel.scan false .none arguments
  let settled ← found.settle
  match (settled.all accessParameter.long).head? with
  | none => throw (.usage .parameterMissing)
  | some access =>
    pure (.finalizer action access
      ((settled.all markerParameter.long).head?.getD bucketAccessFinalizer))

/-- Reads the arguments of the finalizer command. -/
def readFinalizer (arguments : List String) : Except Stop Command := do
  let (found, command) ← finalizerLevel.scan false .none arguments
  match command with
  | some ("add", rest) => readAction .add rest
  | some ("remove", rest) => readAction .remove rest
  | some (_, rest) => throw (helpOn finalizerLevel rest)
  | none => do
    let _ ← found.settle
    throw (.usage (.commandMissing finalizerDescription))

/-- Reads a command and its arguments. -/
def readCommand : Option (String × List String) → Except Stop (Option Command)
  | none => .ok none
  | some ("resolve", rest) => (readResolve rest).map some
  | some ("finalizer", rest) => (readFinalizer rest).map some
  | some (_, rest) => .error (helpOn topLevel rest)

/-- The value of a variable of the environment. -/
def setting? (environment : List (String × String)) (name : String) : Option String :=
  (environment.find? fun entry => entry.1 == name).map Prod.snd

/-- The value of a flag: given as an argument, or by a variable. -/
def flagOf (found : Matches) (parameter : Parameter) (setting : Option String) :
    Except Stop Bool :=
  if found.has parameter then .ok true
  else match setting with
    | none => .ok false
    | some word =>
      match flagWord? word with
      | some value => .ok value
      | none =>
        if word = "" then .error (.usage (.valueMissing parameter.shown))
        else .error (.usage (.badChoice word parameter.shown))

/-- The value of a number: given as an argument, by a variable, or the usual one. -/
def numberOf (found : Matches) (parameter : Parameter) (setting : Option String) (usual : Nat) :
    Except Stop Nat :=
  match (found.all parameter.long).head?.or setting with
  | none => .ok usual
  | some text =>
    (wholeNumber text).mapError fun fault =>
      .usage (.badValue text parameter.shown fault.message)

/-- Reads a command line. -/
def read (arguments : List String) (environment : List (String × String)) :
    Except Stop Settings := do
  let (found, rest) ← topLevel.scan false .none arguments
  let command ← readCommand rest
  let settled ← found.settle
  let treeLog ← flagOf settled treeLogParameter (setting? environment "COSI_NODE_LOG_JSON")
  let connect ← numberOf settled connectParameter
    (setting? environment "COSI_NODE_CONNECT_TIMEOUT_SECS") 5
  let read ← numberOf settled readParameter
    (setting? environment "COSI_NODE_READ_TIMEOUT_SECS") 30
  pure ⟨settled.has manifestsParameter, treeLog, connect, read, command⟩

end BucketMount.CommandLine
