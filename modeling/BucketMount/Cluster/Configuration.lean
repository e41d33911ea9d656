import BucketMount.Http.Url
import BucketMount.Text.Base64
import BucketMount.Yaml.Document
import BucketMount.Yaml.Shape

/-!
# Where the cluster is

A configuration file lists clusters, users and contexts under names, and names
the current context, which joins a cluster and a user. Reading it yields the
address of the cluster's server, the proxy to use if there is one, the namespace
that the context prefers, and what the user brings along.

A file may hold several documents, which count as one: what an earlier document
says wins, and the entries of a later one come behind. Every document is read and
compared with its shape before the next one is read, and all of them before they
are joined.

No other file can be read: a certificate authority must stand in the file itself.
What certificates and keys hold is not modelled, and neither are plugins that
provide credentials. The configuration that a pod finds in its own environment is
left out as well, so looking for it always fails.
-/

namespace BucketMount

/-- What is read of a configuration file: its documents joined to one. The entries of
a list are those of the documents one behind the other. -/
structure ConfigurationFile where
  kind : Option String
  version : Option String
  currentContext : Option String
  clusters : List Yaml.Value
  users : List Yaml.Value
  contexts : List Yaml.Value
  deriving Repr

/-- Why no configuration was found. -/
inductive ConfigurationFault where
  | noFile (path : String) (cause : String)
  | unreadable (cause : String)
  | misshapen (cause : Yaml.Mismatch)
  | otherKind
  | otherVersion
  | noCurrentContext
  | unknownContext (name : String)
  | unknownCluster (name : String)
  | noServer
  | badServer (cause : Http.UrlFault)
  | badAuthority
  | badProxy (cause : Http.UrlFault)
  deriving DecidableEq, Repr

namespace ConfigurationFault

/-- The wording of a fault. -/
def message : ConfigurationFault → String
  | .noFile path cause =>
    "failed to read kubeconfig from '" ++ Text.quoted path ++ "': " ++ cause
  | .unreadable cause => "failed to parse kubeconfig YAML: " ++ cause
  | .misshapen cause => "the structure of the parsed kubeconfig is invalid: " ++ cause.message
  | .otherKind => "kubeconfigs with mismatching kind cannot be merged"
  | .otherVersion => "kubeconfigs with mismatching api version cannot be merged"
  | .noCurrentContext => "failed to determine current context"
  | .unknownContext name => "failed to load current context: " ++ name
  | .unknownCluster name => "failed to load the cluster of context: " ++ name
  | .noServer => "cluster url is missing on selected cluster"
  | .badServer cause => "failed to parse cluster url: " ++ cause.message
  | .badAuthority => "failed to load certificate authority"
  | .badProxy cause => "failed to parse proxy url: " ++ cause.message

/-- The wording of what caused the fault. -/
def causes : ConfigurationFault → List String
  | .noFile _ cause | .unreadable cause => [cause]
  | .misshapen cause => [cause.message]
  | .badServer cause | .badProxy cause => [cause.message]
  | _ => []

/-- The wording of a search that failed in the pod's environment and in the file. -/
def inferenceMessage (fault : ConfigurationFault) : String :=
  "failed to infer config: in-cluster: (failed to read an incluster environment variable: " ++
    "environment variable not found), kubeconfig: (" ++ fault.message ++ ")"

end ConfigurationFault

namespace ConfigurationFile

open Yaml (Shape Value)

/-- A text that may be null. -/
def textField (key : String) : String × Shape := (key, .nullable .text)

/-- A flag that may be null. -/
def flagField (key : String) : String × Shape := (key, .nullable .flag)

/-- Further data under names, in values of any shape. -/
def extensions : String × Shape :=
  ("extensions", .nullable (.list
    (.record "NamedExtension" [("name", .text), ("extension", .document)] [])))

/-- The shape of a list of named entries, each with something under a key. -/
def named (title key : String) (shape : Shape) : Shape :=
  .nullable (.list (.record title [("name", .text)] [(key, .nullable shape)]))

/-- The shape of a cluster. -/
def clusterShape : Shape :=
  .record "Cluster" [] [textField "server", flagField "insecure-skip-tls-verify",
    textField "certificate-authority", textField "certificate-authority-data",
    textField "proxy-url", flagField "disable-compression", textField "tls-server-name", extensions]

/-- The shape of a plugin that provides credentials by a name. -/
def providerShape : Shape :=
  .record "AuthProviderConfig" [("name", .text)] [("config", .dictionary .text)]

/-- The shape of a plugin that is a command. -/
def commandShape : Shape :=
  .record "ExecConfig" [] [textField "apiVersion", textField "command",
    ("args", .nullable (.list .text)), ("env", .nullable (.list (.dictionary .text))),
    ("interactiveMode", .nullable (.choice ["Never", "IfAvailable", "Always"])),
    ("provideClusterInfo", .flag)]

/-- The shape of a user. -/
def userShape : Shape :=
  .record "AuthInfo" [] [textField "username", textField "password", textField "token",
    textField "tokenFile", textField "client-certificate", textField "client-certificate-data",
    textField "client-key", textField "client-key-data", textField "as",
    ("as-groups", .nullable (.list .text)), ("auth-provider", .nullable providerShape),
    ("exec", .nullable commandShape)]

/-- The shape of a context. -/
def contextShape : Shape :=
  .record "Context" [("cluster", .text)] [textField "user", textField "namespace", extensions]

/-- The shape of a document. -/
def shape : Shape :=
  .record "Kubeconfig" [] [
    ("preferences", .nullable (.record "Preferences" [] [flagField "colors", extensions])),
    ("clusters", named "NamedCluster" "cluster" clusterShape),
    ("users", named "NamedAuthInfo" "user" userShape),
    ("contexts", named "NamedContext" "context" contextShape),
    textField "current-context", extensions, textField "kind", textField "apiVersion"]

/-- The file of one document. -/
def ofValue (value : Value) : Except ConfigurationFault ConfigurationFile := do
  (Yaml.checkShape shape value).mapError .misshapen
  pure ⟨(value.member "kind").text?, (value.member "apiVersion").text?,
    (value.member "current-context").text?, (value.member "clusters").items,
    (value.member "users").items, (value.member "contexts").items⟩

/-- True for two texts that differ; a missing one differs from none. -/
def differ (left right : Option String) : Bool :=
  left.isSome && right.isSome && left != right

/-- A file with a later document. An entry under a name that is known comes behind the
one it cannot replace. -/
def join (file later : ConfigurationFile) : Except ConfigurationFault ConfigurationFile :=
  if differ file.kind later.kind then .error .otherKind
  else if differ file.version later.version then .error .otherVersion
  else .ok ⟨file.kind.or later.kind, file.version.or later.version,
    file.currentContext.or later.currentContext, file.clusters ++ later.clusters,
    file.users ++ later.users, file.contexts ++ later.contexts⟩

/-- The file that says nothing. -/
def empty : ConfigurationFile := ⟨none, none, none, [], [], []⟩

/-- Reads a document. -/
def ofDocument (document : Yaml.Document) : Except ConfigurationFault ConfigurationFile := do
  ofValue (← document.value.mapError fun refusal => .unreadable refusal.message)

/-- A file's text without the byte order mark that may stand before it. -/
def unmarked (text : String) : String :=
  match text.toList with
  | '\ufeff' :: rest => String.ofList rest
  | _ => text

/-- Reads a file's text. -/
def ofText (text : String) : Except ConfigurationFault ConfigurationFile := do
  let documents ← (Yaml.documentsOf (unmarked text)).mapM ofDocument
  documents.foldlM join empty

/-- What the first entry under a name holds under a key; null if there is nothing. -/
def find (name key : String) (entries : List Value) : Value :=
  ((entries.find? fun entry => (entry.member "name").text? == some name).map
    (·.member key)).getD .null

end ConfigurationFile

/-- What a user brings along: a file that holds a token, and on whose behalf the user
speaks. Whoever has a token or a password needs no file. -/
structure Credentials where
  tokenFile : Option String
  onBehalfOf : List String
  deriving DecidableEq, Repr

namespace Credentials

/-- A user who brings nothing. -/
def empty : Credentials := ⟨none, []⟩

/-- What a user brings along. -/
def ofValue (user : Yaml.Value) : Credentials :=
  let text (key : String) : Option String := (user.member key).text?
  let known := (text "token").isSome || ((text "username").isSome && (text "password").isSome)
  ⟨if known then none else text "tokenFile",
    (text "as").toList ++ (user.member "as-groups").items.filterMap Yaml.Value.text?⟩

end Credentials

/-- What a node needs to know of its cluster. -/
structure Configuration where
  server : Http.Url
  proxy : Option Http.Url
  namespaceName : String
  credentials : Credentials
  headers : List (String × String)
  deriving DecidableEq, Repr

namespace Configuration

/-- The configuration of a server and nothing else. -/
def ofServer (server : Http.Url) (proxy : Option Http.Url) : Configuration :=
  ⟨server, proxy, "default", .empty, []⟩

/-- A certificate authority must be base64; one in another file cannot be read. -/
def checkAuthority (cluster : Yaml.Value) : Except ConfigurationFault Unit :=
  match (cluster.member "certificate-authority-data").text? with
  | some data => (Text.Base64.decode data.toUTF8.toList).map (fun _ => ()) |>.mapError fun _ =>
      .badAuthority
  | none =>
    if (cluster.member "certificate-authority").text?.isSome then .error .badAuthority else .ok ()

/-- Follows the current context of a file. A user need not be there. -/
def ofFile (file : ConfigurationFile) : Except ConfigurationFault Configuration := do
  let some current := file.currentContext | throw .noCurrentContext
  let context := ConfigurationFile.find current "context" file.contexts
  let some name := (context.member "cluster").text? | throw (.unknownContext current)
  let cluster := ConfigurationFile.find name "cluster" file.clusters
  if let .null := cluster then throw (.unknownCluster name)
  let some server := (cluster.member "server").text? | throw .noServer
  let url ← (Http.Url.ofText server).mapError .badServer
  checkAuthority cluster
  let proxy ← match (cluster.member "proxy-url").text?.filter (· != "") with
    | some proxy => (Http.Url.ofText proxy).mapError .badProxy |>.map some
    | none => pure none
  let user := match (context.member "user").text? with
    | some name => ConfigurationFile.find name "user" file.users
    | none => .null
  pure ⟨url, proxy, ((context.member "namespace").text?).getD "default", .ofValue user, []⟩

/-- Reads the configuration in a file's text. -/
def ofText (text : String) : Except ConfigurationFault Configuration := do
  ofFile (← ConfigurationFile.ofText text)

end Configuration

end BucketMount
