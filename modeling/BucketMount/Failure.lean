import BucketMount.Cluster.Configuration

/-!
# Failures

A request to the cluster fails before it is sent, on the way, by the server's
refusal, or because the answer makes no sense. An operation of a node fails
because a request did, or because what it found is missing or not ready. Every
failure has a wording of its own and knows the wordings of its causes.
-/

namespace BucketMount

/-- A server's refusal of a request. -/
structure ServerRefusal where
  status : String
  message : String
  reason : String
  code : Nat
  deriving DecidableEq, Repr

namespace ServerRefusal

/-- The gist of a refusal. -/
def gist (refusal : ServerRefusal) : String := refusal.message ++ ": " ++ refusal.reason

/-- All parts of a refusal. -/
def shown (refusal : ServerRefusal) : String :=
  "ErrorResponse \x7b status: " ++ Text.quoted refusal.status ++ ", message: " ++
    Text.quoted refusal.message ++ ", reason: " ++ Text.quoted refusal.reason ++
    s!", code: {refusal.code} \x7d"

end ServerRefusal

/-- Why a request could not be put together. -/
inductive RequestFault where
  | emptyName
  | badTarget (cause : Http.UrlFault)
  deriving DecidableEq, Repr

namespace RequestFault

/-- The wording of a fault. -/
def message : RequestFault → String
  | .emptyName => "failed to validate request: A non-empty name is required"
  | .badTarget cause => "failed to build request: " ++ cause.message

/-- The wording of what caused the fault. -/
def causes : RequestFault → List String
  | .emptyName => []
  | .badTarget cause => [cause.message]

end RequestFault

/-- Why a client could not do what it was asked. `unreachable` carries what the
network says; `badStatus` is a response with a status that no response has. -/
inductive ClientFailure where
  | refused (refusal : ServerRefusal)
  | undecodable (cause : Json.Refusal)
  | badRequest (cause : RequestFault)
  | unreachable (cause : String)
  | badStatus
  | noConfiguration (cause : ConfigurationFault)
  | unsupportedProxy (proxy : Http.Url)
  | disabledProxy (proxy : Http.Url) (feature : String)
  | unreadableToken (path : String)
  | badHeader
  deriving DecidableEq, Repr

namespace ClientFailure

/-- The wording for a server that cannot be reached. -/
def connectMessage : String := "client error (Connect)"

/-- The wording for a status that no response has. -/
def statusMessage : String := "invalid status code"

/-- What the system says of a file that is not there. -/
def noSuchFile : String := "No such file or directory (os error 2)"

/-- The wording for a token in a file that is not there. -/
def tokenMessage (path : String) : String :=
  "failed to read token file '" ++ Text.quoted path ++ "': " ++ noSuchFile

/-- The wording for a header that holds what it may not. -/
def headerMessage : String := "failed to parse header value"

/-- The wording of a failure. -/
def message : ClientFailure → String
  | .refused refusal => "ApiError: " ++ refusal.gist ++ " (" ++ refusal.shown ++ ")"
  | .undecodable cause => "Error deserializing response: " ++ cause.message
  | .badRequest cause => "Failed to build request: " ++ cause.message
  | .unreachable _ => "ServiceError: " ++ connectMessage
  | .badStatus => "ServiceError: " ++ statusMessage
  | .noConfiguration cause => "Failed to infer configuration: " ++ cause.inferenceMessage
  | .unsupportedProxy proxy => s!"configured proxy {proxy.text} uses an unsupported protocol"
  | .disabledProxy proxy feature =>
    s!"configured proxy {proxy.text} requires the disabled feature " ++ Text.quoted feature
  | .unreadableToken path => "auth error: " ++ tokenMessage path
  | .badHeader => "HttpError: " ++ headerMessage

/-- The wordings of its causes, the nearest first. -/
def causes : ClientFailure → List String
  | .refused refusal => [refusal.gist]
  | .undecodable cause => [cause.message]
  | .badRequest cause => cause.message :: cause.causes
  | .unreachable cause => [connectMessage, "tcp connect error", cause]
  | .badStatus => [statusMessage]
  | .noConfiguration cause => cause.inferenceMessage :: cause.message :: cause.causes
  | .unsupportedProxy _ | .disabledProxy _ _ => []
  | .unreadableToken path => [tokenMessage path, noSuchFile]
  | .badHeader => [headerMessage]

/-- True if a server said that there is no such object. -/
def isAbsence : ClientFailure → Bool
  | .refused refusal => refusal.code == 404
  | _ => false

end ClientFailure

/-- Why an operation of a node failed. -/
inductive NodeError where
  | missingContextKey (key : String)
  | lookup (kind name : String) (source : ClientFailure)
  | update (kind name : String) (source : ClientFailure)
  | notFound (kind name : String)
  | notReady (kind name message : String)
  | fieldUnset (kind field : String)
  | unrecognizedProtocol (bucket : String)
  | serialization (kind message : String)
  | client (source : ClientFailure)
  deriving DecidableEq, Repr

namespace NodeError

/-- The wording of an error. -/
def message : NodeError → String
  | .missingContextKey key => s!"required volume context key unset: {key}"
  | .lookup kind name source => s!"get {kind} {name} failed: {source.message}"
  | .update kind name source => s!"update {kind} {name} failed: {source.message}"
  | .notFound kind name => s!"{kind} is nil {Text.quoted name}"
  | .notReady kind name message => s!"{kind} {message} {Text.quoted name}"
  | .fieldUnset kind field => s!"{kind}.{field} unset"
  | .unrecognizedProtocol bucket =>
    s!"unrecognized protocol on bucket {Text.quoted bucket}, unable to extract connection data"
  | .serialization _ message => s!"serialization error: {message}"
  | .client source => s!"kubernetes error: {source.message}"

/-- The kind of resource that an error is about. -/
def resourceKind? : NodeError → Option String
  | .lookup kind _ _ | .update kind _ _ | .notFound kind _ | .notReady kind _ _
  | .fieldUnset kind _ | .serialization kind _ => some kind
  | .unrecognizedProtocol _ => some "bucket"
  | .missingContextKey _ | .client _ => none

/-- The failure of a client behind an error. -/
def source? : NodeError → Option ClientFailure
  | .lookup _ _ source | .update _ _ source | .client source => some source
  | _ => none

/-- True if the object does not exist: nothing was found, or a server said so. -/
def isNotFound : NodeError → Bool
  | .notFound _ _ => true
  | error => error.source?.any ClientFailure.isAbsence

/-- The wordings of an error's causes, the nearest first. -/
def causes (error : NodeError) : List String :=
  match error.source? with
  | some source => source.message :: source.causes
  | none => []

end NodeError

end BucketMount
