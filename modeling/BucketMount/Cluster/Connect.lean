import BucketMount.Failure
import BucketMount.Log.Event

/-!
# Preparing to talk to a cluster

A node says who it is with every request and does not wait for ever: to connect
and to be answered it waits for so many milliseconds. No proxy can be used; a
cluster that is configured to be behind one cannot be reached. A token that stands
in a file cannot be read, since the files of a node are not modelled, and who
speaks on behalf of others names them in printable characters.
-/

namespace BucketMount

/-- How long a node waits, in milliseconds. -/
structure Timeouts where
  connect : Nat
  read : Nat
  deriving DecidableEq, Repr

namespace Timeouts

/-- Five seconds to connect, thirty to be answered. -/
def usual : Timeouts := ⟨5000, 30000⟩

end Timeouts

/-- A fraction of so many digits behind a point, without trailing zeros and
without the point if nothing is left. -/
def fractionText (digits number : Nat) : String :=
  let all := Nat.toDigits 10 number
  let padded := List.replicate (digits - all.length) '0' ++ all
  let kept := (padded.reverse.dropWhile (· == '0')).reverse
  if kept.isEmpty then "" else "." ++ String.ofList kept

/-- A span of time in words, given in milliseconds: seconds from one second on. -/
def durationText (milliseconds : Nat) : String :=
  if milliseconds = 0 then "0ns"
  else if milliseconds < 1000 then s!"{milliseconds}ms"
  else toString (milliseconds / 1000) ++ fractionText 3 (milliseconds % 1000) ++ "s"

/-- The name by which a node introduces itself. -/
def userAgent : String := "cosi-node/0.1.0"

namespace Configuration

/-- Adds a header behind the others; names of headers are in lower case. -/
def addHeader (configuration : Configuration) (name value : String) : Configuration :=
  { configuration with
    headers := configuration.headers ++ [(String.ofList (name.toList.map Char.toLower), value)] }

/-- The configuration with the name of the node among its headers. -/
def introduced (configuration : Configuration) : Configuration :=
  configuration.addHeader "user-agent" userAgent

/-- The event that announces the client. -/
def event (configuration : Configuration) (timeouts : Timeouts) : Log.Event :=
  ⟨.debug, "cosi_node::kube_client", "building kube client",
    [("cluster_url", .shown configuration.server.text),
      ("connect_timeout", .shown (durationText timeouts.connect)),
      ("read_timeout", .shown (durationText timeouts.read))], none⟩

/-- Refuses a configuration with a proxy. -/
def withoutProxy (configuration : Configuration) : Except ClientFailure Configuration :=
  match configuration.proxy with
  | none => .ok configuration
  | some proxy =>
    match proxy.scheme with
    | some "http" => .error (.disabledProxy proxy "kube/http-proxy")
    | some "socks5" => .error (.disabledProxy proxy "kube/socks5")
    | _ => .error (.unsupportedProxy proxy)

/-- True for a character that a header may hold. -/
def inHeader (character : Char) : Bool :=
  character == '\t' || (0x20 ≤ character.toNat && character.toNat < 0x7f)

/-- Refuses credentials that cannot be sent. -/
def withCredentials (configuration : Configuration) : Except ClientFailure Configuration :=
  match configuration.credentials.tokenFile with
  | some path => .error (.unreadableToken path)
  | none =>
    if configuration.credentials.onBehalfOf.all fun name => name.toList.all inHeader then
      .ok configuration
    else .error .badHeader

/-- Prepares a client for a configuration, and logs that it does. -/
def connect (configuration : Configuration) (timeouts : Timeouts) :
    Except ClientFailure Configuration × List Log.Event :=
  (configuration.introduced.withoutProxy.bind withCredentials, [configuration.event timeouts])

/-- Prepares a client for the configuration that was looked for. -/
def connectFound (found : Except ConfigurationFault Configuration) (timeouts : Timeouts) :
    Except ClientFailure Configuration × List Log.Event :=
  match found with
  | .ok configuration => configuration.connect timeouts
  | .error fault => (.error (.noConfiguration fault), [])

end Configuration

end BucketMount
