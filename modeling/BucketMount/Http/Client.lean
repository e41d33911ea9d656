import BucketMount.Http.Message
import BucketMount.Json.Place
import BucketMount.Node.Client

/-!
# A client that speaks to a server

An object is read and replaced at its path. A name that is empty, and a path that
is no address, are refused before anything is sent.

A response with a status of four or five hundred is a refusal: the one that its
body describes, whatever the status says, or else one made up from the status and
the body. Any other response is expected to hold the object. When the refusal of a
read has the code 404 the object does not exist, which is no failure.

Refusals and bodies that cannot be read are logged as they come in, also where
they turn out to be no failure.
-/

namespace BucketMount

/-- The description of a refusal. -/
def ServerRefusal.record : Record ServerRefusal where
  name := "ErrorResponse"
  description := none
  initial := ⟨"", "", "", 0⟩
  fields := [
    .required "status" none .string ServerRefusal.status ({ · with status := · }),
    .elided "message" none .string "" (fun _ => false) ServerRefusal.message
      ({ · with message := · }),
    .elided "reason" none .string "" (fun _ => false) ServerRefusal.reason ({ · with reason := · }),
    .required "code" none (.whole 0 65535 "u16") (fun refusal => (refusal.code : Int))
      (fun refusal code => { refusal with code := code.toNat })]

namespace Http

/-- True for the status of a refusal. -/
def refuses (status : Nat) : Bool := 400 ≤ status && status < 600

/-- The part of the library that logs responses. -/
def clientTarget : String := "kube_client::client"

/-- The part of the library that logs requests that go wrong on their way. -/
def connectionTarget : String := "kube_client::client::builder"

/-- An event about a response. -/
def responseEvent (level : Log.Level) (message : String) : Log.Event :=
  ⟨level, clientTarget, message, [], none⟩

/-- The refusal in a response, and what is logged of it. -/
def Response.refusal (response : Response) : ServerRefusal × List Log.Event :=
  match ServerRefusal.record.format.ofText response.body with
  | .ok refusal => (refusal, [responseEvent .debug ("Unsuccessful: " ++ refusal.shown)])
  | .error _ =>
    let refusal : ServerRefusal := ⟨statusLine response.status, Text.quoted response.body,
      "Failed to parse error data", response.status⟩
    (refusal, [responseEvent .warn ("Unsuccessful data error parse: " ++ response.body),
      responseEvent .debug ("Unsuccessful: " ++ refusal.shown ++ " (reconstruct)")])

/-- The event about a body that is not the object. -/
def undecodableEvent {α : Type} (format : Format α) (body : String) (cause : Json.Refusal) :
    Log.Event :=
  let place := format.placeOf body cause
  responseEvent .warn (body ++ ", Error(" ++ Text.quoted cause.message ++
    s!", line: {place.line}, column: {place.column})")

/-- The object in a response, and what is logged of it. -/
def Response.object {α : Type} (format : Format α) (response : Response) :
    Except ClientFailure α × List Log.Event :=
  if refuses response.status then
    let (refusal, events) := response.refusal
    (.error (.refused refusal), events)
  else match format.ofText response.body with
    | .ok value => (.ok value, [])
    | .error cause => (.error (.undecodable cause), [undecodableEvent format response.body cause])

/-- The failure of a request that brought back no response, and what is logged of it. -/
def TransportFault.failure : TransportFault → ClientFailure × List Log.Event
  | .unreachable words =>
    (.unreachable words, [⟨.error, connectionTarget,
      "failed with error " ++ ClientFailure.connectMessage, [], none⟩])
  | .badStatus => (.badStatus, [])

/-- The target of a request that concerns an object. -/
def targetOf (address : Address) (suffix : String) : Except RequestFault Target :=
  if address.name = "" then .error .emptyName
  else
    let text := address.path ++ suffix
    if longest < text.utf8ByteSize then .error (.badTarget .tooLong)
    else (Target.ofCharacters text.toList).mapError .badTarget

variable {σ α : Type}

/-- Sends a request. -/
def send (transport : Transport σ) (format : Format α) (request : Request) : Call σ α :=
  fun state =>
    match transport request state with
    | (.ok response, next) =>
      let (result, events) := response.object format
      ⟨result, events, next⟩
    | (.error fault, next) =>
      let (failure, events) := fault.failure
      ⟨.error failure, events, next⟩

/-- What a read comes to: a server's word that there is no such object is an answer. -/
def optionalResult : Except ClientFailure α → Except ClientFailure (Option α)
  | .ok value => .ok (some value)
  | .error failure => if failure.isAbsence then .ok none else .error failure

/-- Reads an object. -/
def read (transport : Transport σ) (format : Format α) (address : Address) :
    Call σ (Option α) :=
  fun state =>
    match targetOf address "" with
    | .error fault => .quiet (.error (.badRequest fault)) state
    | .ok target =>
      let reply := send transport format ⟨.get, target, none⟩ state
      ⟨optionalResult reply.result, reply.events, reply.state⟩

/-- Replaces an object. -/
def replace (transport : Transport σ) (format : Format α) (address : Address) (value : α) :
    Call σ α :=
  fun state =>
    match targetOf address "?" with
    | .error fault => .quiet (.error (.badRequest fault)) state
    | .ok target => send transport format ⟨.put, target, some (format.toText value)⟩ state

/-- The client that uses a transport. -/
def client (transport : Transport σ) : Client σ where
  findBucketAccessRequest name namespaceName :=
    read transport BucketAccessRequest.kind.format ⟨.bucketAccessRequest, some namespaceName, name⟩
  findBucketAccess name := read transport BucketAccess.kind.format ⟨.bucketAccess, none, name⟩
  findBucketRequest name namespaceName :=
    read transport BucketRequest.kind.format ⟨.bucketRequest, some namespaceName, name⟩
  findBucket name := read transport Bucket.kind.format ⟨.bucket, none, name⟩
  findSecret name namespaceName :=
    read transport Secret.format ⟨.secret, some namespaceName, name⟩
  replaceBucketAccess access :=
    replace transport BucketAccess.kind.format
      ⟨.bucketAccess, none, access.metadata.displayName⟩ access

end Http

end BucketMount
