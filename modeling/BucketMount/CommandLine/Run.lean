import BucketMount.Cluster.Connect
import BucketMount.CommandLine.Settings
import BucketMount.Http.Client
import BucketMount.Log.Install
import BucketMount.Manifest
import BucketMount.Node.Connection
import BucketMount.Node.Protection
import BucketMount.Node.Resolve
import BucketMount.Node.VolumeContext
import BucketMount.Yaml.Writer

/-!
# Running a command

A run reads its arguments, and then prints the manifests, resolves a volume
context, or changes the finalizers of a grant. It leaves behind an exit code, what
it printed, the events it logged, and what it complained about. A command that
fails prints nothing else than its complaint and the complaint's causes.

The command talks to the cluster through a transport, which it uses for nothing
before its arguments have been read and the configuration has been found.
-/

namespace BucketMount.CommandLine

/-- What a command complains about: a wording and the wordings of its causes, the
nearest first. -/
structure Complaint where
  message : String
  causes : List String
  deriving DecidableEq, Repr

namespace Complaint

/-- The complaint about an error of an operation. -/
def ofError (error : NodeError) : Complaint := ⟨error.message, error.causes⟩

/-- The complaint about a failure of the client. -/
def ofFailure (failure : ClientFailure) : Complaint := ⟨failure.message, failure.causes⟩

/-- The lines of a text, each further one behind so many blanks. -/
def hanging (indent : Nat) (text : String) : List Char :=
  text.toList.flatMap fun character =>
    if character = '\n' then '\n' :: List.replicate indent ' ' else [character]

/-- A cause among several, with its number. -/
def numbered (place : Nat) (cause : String) : String :=
  let digits := toString place
  String.ofList (List.replicate (5 - digits.length) ' ') ++ digits ++ ": " ++
    String.ofList (hanging 7 cause)

/-- The text of a complaint. -/
def text (complaint : Complaint) : String :=
  let causes := match complaint.causes with
    | [] => []
    | [cause] => ["", "Caused by:", "    " ++ String.ofList (hanging 4 cause)]
    | several => "" :: "Caused by:" :: (several.zipIdx.map fun (cause, place) =>
        numbered place cause)
  "\n".intercalate (("Error: " ++ complaint.message) :: causes)

end Complaint

/-- What a run leaves behind. -/
structure Report (σ : Type) where
  exitCode : Nat
  output : String
  entries : List Log.Entry
  complaint : Option String
  state : σ

/-- What a command comes to: what it prints or complains about, the events it
logged and the state it leaves behind. -/
structure Effect (σ : Type) where
  result : Except Complaint String
  events : List Log.Event
  state : σ

namespace Effect

variable {σ α : Type}

/-- A failure before anything was done. -/
def failed (complaint : Complaint) (events : List Log.Event) (state : σ) : Effect σ :=
  ⟨.error complaint, events, state⟩

/-- Prints what an operation comes to. -/
def ofOutcome (printed : α → String) (outcome : Outcome σ α) : Effect σ :=
  ⟨(outcome.result.map printed).mapError Complaint.ofError, outcome.events, outcome.state⟩

/-- An effect behind events that were logged before. -/
def behind (events : List Log.Event) (effect : Effect σ) : Effect σ :=
  { effect with events := events ++ effect.events }

end Effect

variable {σ : Type}

/-- The document that tells what a volume context was resolved to. -/
def resolvedDocument (context : VolumeContext) (resolved : Resolved) (connection : Connection) :
    Json :=
  ascending [
    ("bucket", .string resolved.bucket.metadata.displayName),
    ("bucketAccess", .string resolved.access.metadata.displayName),
    ("pod", .string (context.podNamespace ++ "/" ++ context.podName)),
    ("protocol", match connection.document with
      | .object members _ => ascending members
      | other => other),
    ("secret", .string resolved.secret.metadata.displayName)]

/-- Resolves a volume context. -/
def resolve (client : Client σ) (context : List (String × String)) : Operation σ Json := do
  let context ← VolumeContext.read (Dictionary.ofList context)
  let resolved ← Node.resolve client context.requestName context.requestNamespace
  let connection ← Node.connection resolved.bucket
  pure (resolvedDocument context resolved connection)

/-- The markers of a grant, one on a line. -/
def markerLines (access : BucketAccess) : String := "\n".intercalate access.finalizers ++ "\n"

/-- Adds a finalizer to a grant or removes it. -/
def mark (client : Client σ) (action : Finalizer.Action) (name marker : String) (state : σ) :
    Effect σ :=
  let reply := client.findBucketAccess name state
  match reply.result with
  | .error failure => .failed (.ofFailure failure) reply.events reply.state
  | .ok none => .failed ⟨s!"bucketAccess {name} not found", []⟩ reply.events reply.state
  | .ok (some access) =>
    (Effect.ofOutcome markerLines ((Node.mark client action marker access).2 reply.state)).behind
      reply.events

/-- Carries out a command. -/
def perform (client : Client σ) (command : Command) (state : σ) : Effect σ :=
  match command with
  | .resolve context =>
    .ofOutcome (fun document => document.indentedText ++ "\n") (resolve client context state)
  | .finalizer action access marker => mark client action access marker state

/-- Carries out a command once the configuration has been found. -/
def performFound (found : Except ConfigurationFault Configuration) (timeouts : Timeouts)
    (transport : Http.Transport σ) (command : Command) (state : σ) : Effect σ :=
  match Configuration.connectFound found timeouts with
  | (.error failure, events) => .failed (.ofFailure failure) events state
  | (.ok _, events) => (perform (Http.client transport) command state).behind events

/-- The manifests as they are printed. -/
def manifestText : String :=
  String.join (manifests.map fun manifest => "---\n" ++ Yaml.text manifest ++ "\n")

/-- Does what the settings ask for. -/
def execute (settings : Settings) (found : Except ConfigurationFault Configuration)
    (transport : Http.Transport σ) (state : σ) : Effect σ :=
  if settings.manifests then ⟨.ok manifestText, [], state⟩
  else match settings.command with
    | none => .failed ⟨"no command given, see --help", []⟩ [] state
    | some command =>
      performFound found ⟨1000 * settings.connectSeconds, 1000 * settings.readSeconds⟩ transport
        command state

/-- The version as it is printed. -/
def versionText : String := "cosi-node 0.1.0\n"

/-- How the command is used, in brief. -/
def helpText : String := "Usage: cosi-node [OPTIONS] [COMMAND]\n"

/-- The surroundings of a run: the variables of the environment, the setting of
the log's filter, and the configuration that can be found. -/
structure Surroundings where
  environment : List (String × String)
  filterSetting : Option String
  found : Except ConfigurationFault Configuration

/-- Runs the program. -/
def run (arguments : List String) (surroundings : Surroundings) (transport : Http.Transport σ)
    (state : σ) : Report σ :=
  match read arguments surroundings.environment with
  | .error .help => ⟨0, helpText, [], none, state⟩
  | .error .version => ⟨0, versionText, [], none, state⟩
  | .error (.usage error) => ⟨2, "", [], some error.line, state⟩
  | .ok settings =>
    let logger : Log.Logger :=
      ⟨if settings.treeLog then .tree else .line, .ofSetting surroundings.filterSetting⟩
    let effect := execute settings surroundings.found transport state
    let entries := logger.write effect.events
    match effect.result with
    | .ok output => ⟨0, output, entries, none, effect.state⟩
    | .error complaint => ⟨1, "", entries, some complaint.text, effect.state⟩

end BucketMount.CommandLine
