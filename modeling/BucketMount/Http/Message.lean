import BucketMount.Http.Url

/-!
# Requests and responses

A node reads an object and replaces one; other methods are not modelled, and
neither are headers. A transport carries a request to a server and brings back
its response. It fails if the network does, or if what comes back has a status of
other than three digits. A recorded transport does the same and keeps a list of
the requests.
-/

namespace BucketMount.Http

/-- What a request wants. -/
inductive Method where
  | get
  | put
  deriving DecidableEq, Repr

/-- The word for a method. -/
def Method.word : Method → String
  | .get => "GET"
  | .put => "PUT"

/-- A request. One that reads has no body. -/
structure Request where
  method : Method
  target : Target
  body : Option String
  deriving DecidableEq, Repr

/-- A response. -/
structure Response where
  status : Nat
  body : String
  deriving DecidableEq, Repr

/-- Why a request brought back no response. `unreachable` carries what the network
says. -/
inductive TransportFault where
  | unreachable (words : String)
  | badStatus
  deriving DecidableEq, Repr

/-- True for a status of three digits. -/
def validStatus (status : Nat) : Bool := 100 ≤ status && status ≤ 999

/-- Carries requests over some state. -/
abbrev Transport (σ : Type) := Request → σ → Except TransportFault Response × σ

/-- The transport that also records the requests. -/
def Transport.recorded {σ : Type} (transport : Transport σ) :
    Transport (σ × List Request) :=
  fun request (state, requests) =>
    let (answer, next) := transport request state
    (answer, next, requests ++ [request])

/-- The transport of a network that reaches no server. -/
def Transport.unreachable {σ : Type} (words : String) : Transport σ :=
  fun _ state => (.error (.unreachable words), state)

/-- The phrase that goes with a status. -/
def reasonPhrase? : Nat → Option String
  | 100 => some "Continue"
  | 101 => some "Switching Protocols"
  | 102 => some "Processing"
  | 103 => some "Early Hints"
  | 200 => some "OK"
  | 201 => some "Created"
  | 202 => some "Accepted"
  | 203 => some "Non Authoritative Information"
  | 204 => some "No Content"
  | 205 => some "Reset Content"
  | 206 => some "Partial Content"
  | 207 => some "Multi-Status"
  | 208 => some "Already Reported"
  | 226 => some "IM Used"
  | 300 => some "Multiple Choices"
  | 301 => some "Moved Permanently"
  | 302 => some "Found"
  | 303 => some "See Other"
  | 304 => some "Not Modified"
  | 305 => some "Use Proxy"
  | 307 => some "Temporary Redirect"
  | 308 => some "Permanent Redirect"
  | 400 => some "Bad Request"
  | 401 => some "Unauthorized"
  | 402 => some "Payment Required"
  | 403 => some "Forbidden"
  | 404 => some "Not Found"
  | 405 => some "Method Not Allowed"
  | 406 => some "Not Acceptable"
  | 407 => some "Proxy Authentication Required"
  | 408 => some "Request Timeout"
  | 409 => some "Conflict"
  | 410 => some "Gone"
  | 411 => some "Length Required"
  | 412 => some "Precondition Failed"
  | 413 => some "Payload Too Large"
  | 414 => some "URI Too Long"
  | 415 => some "Unsupported Media Type"
  | 416 => some "Range Not Satisfiable"
  | 417 => some "Expectation Failed"
  | 418 => some "I'm a teapot"
  | 421 => some "Misdirected Request"
  | 422 => some "Unprocessable Entity"
  | 423 => some "Locked"
  | 424 => some "Failed Dependency"
  | 425 => some "Too Early"
  | 426 => some "Upgrade Required"
  | 428 => some "Precondition Required"
  | 429 => some "Too Many Requests"
  | 431 => some "Request Header Fields Too Large"
  | 451 => some "Unavailable For Legal Reasons"
  | 500 => some "Internal Server Error"
  | 501 => some "Not Implemented"
  | 502 => some "Bad Gateway"
  | 503 => some "Service Unavailable"
  | 504 => some "Gateway Timeout"
  | 505 => some "HTTP Version Not Supported"
  | 506 => some "Variant Also Negotiates"
  | 507 => some "Insufficient Storage"
  | 508 => some "Loop Detected"
  | 510 => some "Not Extended"
  | 511 => some "Network Authentication Required"
  | _ => none

/-- A status with its phrase. -/
def statusLine (status : Nat) : String :=
  toString status ++ " " ++ (reasonPhrase? status).getD "<unknown status code>"

end BucketMount.Http
