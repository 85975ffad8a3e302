import BearerGate.Gate.Basic
import BearerGate.Http.Headers
import BearerGate.Json.Parser
import BearerGate.Json.Printer
import BearerGate.Log
import BearerGate.Service.Fault
import BearerGate.Service.Registry
import BearerGate.Text.Utf8
import BearerGate.Unicode.Upper

/-!
# Calls on other services

Everything that one service asks of another goes through here.  A call is **prepared**: the name of the
service is resolved, the address built, and the caller's own token attached by `forward`.  Then it is
handed to the transport, once and never again.  What comes back is **concluded**: a reply whose body can
be read is a response, anything else a failure with one of three causes.

`forward` attaches the token byte for byte, in place of any `Authorization` header that a handler may
have set; without a token it attaches none and says so in the log.
-/

namespace BearerGate

/-- **A call as it is handed to the transport.** -/
structure OutboundCall where
  url : Url
  method : String
  headers : Headers
  body : Option String := none
  deriving DecidableEq, Repr

/-- The entry for a call that goes out without a token. -/
def unauthenticatedLog (context : RequestContext) (call : OutboundCall) : LogEntry :=
  .texts .warn "No bearer token in request context; outbound call sent unauthenticated"
    [("requestId", context.requestId), ("target", call.url.href)]

/-- The token of a context that is not empty. -/
def RequestContext.bearer? (context : RequestContext) : Option String :=
  context.token.bind fun t => if t = "" then none else some t

/-- **Attaches the caller's token.**  Fails if the token may not stand in a header. -/
def forward (context : RequestContext) (call : OutboundCall) : Option (OutboundCall × List LogEntry) :=
  let headers := call.headers.delete "authorization"
  match context.bearer? with
  | some token =>
    (headers.set? "authorization" ("Bearer " ++ token)).map fun headers => ({ call with headers }, [])
  | none => some ({ call with headers }, [unauthenticatedLog context call])

/-! ### Preparing a call -/

/-- What a handler asks for. -/
structure ServiceRequest where
  service : String
  path : String
  method : String := "GET"
  headers : List (String × String) := []
  body : Option Json := none

/-- The address of a path below a base address. -/
def joinUrl? (base : Url) (path : String) : Option Url :=
  let root := if base.href.toList.getLast? = some '/' then base.href else base.href ++ "/"
  match Url.parse? root none with
  | none => none
  | some root => Url.parse? (String.ofList (path.toList.dropWhile (· = '/'))) (some root)

/-- The headers of a call: what is accepted, the request's id, and the handler's own. -/
def callHeaders? (context : RequestContext) (own : List (String × String)) : Option Headers :=
  Headers.ofPairs?
    (Table.putAll [("accept", "application/json"), ("x-request-id", context.requestId)] own)

/-- Why a call was never made. -/
inductive CallFault where
  | unknownService (service : String)
  /-- The address or a header of the call cannot be built. -/
  | unbuildable
  deriving DecidableEq, Repr

/-- **Prepares a call.** -/
def prepareCall (registry : Registry) (context : RequestContext) (r : ServiceRequest) :
    Except CallFault (OutboundCall × List LogEntry) :=
  match registry.resolve? r.service with
  | none => .error (.unknownService r.service)
  | some base =>
    let built := do
      let headers ← callHeaders? context r.headers
      let headers ← if r.body.isSome then headers.set? "content-type" "application/json" else some headers
      let url ← joinUrl? base r.path
      forward context
        { url, method := Unicode.toUpper r.method, headers, body := r.body.map Json.render }
    match built with
    | some result => .ok result
    | none => .error .unbuildable

/-! ### Concluding a call -/

/-- What another service sends back. -/
structure TransportReply where
  status : Nat
  headers : Headers
  /-- The bytes of the body. -/
  body : List UInt8

/-- **How the transport of a call ends,** with what had happened by then. -/
structure CallEnd where
  /-- Nothing if the transport failed. -/
  reply : Option TransportReply
  /-- The call's own timer had run out. -/
  timedOut : Bool := false
  /-- The inbound request had been given up. -/
  cancelled : Bool := false

/-- What a call is counted as. -/
inductive CallResult where
  | ok
  | error
  | timeout
  | cancelled
  deriving DecidableEq, Repr

def CallResult.name : CallResult → String
  | ok => "ok"
  | error => "error"
  | timeout => "timeout"
  | cancelled => "cancelled"

/-- **An answer of another service.** -/
structure ServiceResponse where
  status : Nat
  headers : Headers
  body : Json

def ServiceResponse.contentType? (r : ServiceResponse) : Option String := r.headers.get? "content-type"

def isSuccess (status : Nat) : Bool := 200 ≤ status && status < 300

/-- **Reads a body.**  An empty one is `null`; one of a JSON type has to be JSON. -/
def readBody? (r : TransportReply) : Option Json :=
  let cs := Text.Utf8.decodeBody r.body
  if cs = [] then some .null
  else if Text.occursIn "json".toList ((r.headers.get? "content-type").getD "").toList then
    Json.parseChars? cs
  else some (.string (String.ofList cs))

/-- What a call that ended without a readable reply is counted as.  A timer that has run out counts
before a request that was given up. -/
def failureResult (e : CallEnd) : CallResult :=
  if e.timedOut then .timeout else if e.cancelled then .cancelled else .error

/-- The message about a call that failed; `limit` is the time that calls have. -/
def failureMessage (service : String) (limit : Number) : CallResult → String
  | .timeout => service ++ " did not respond within " ++ limit.render ++ "ms"
  | .cancelled => "Call to " ++ service ++ " was cancelled with the inbound request"
  | _ => "Call to " ++ service ++ " failed"

/-- A call that has ended: its response or its failure, what it is counted as, and its log entries. -/
structure ConcludedCall where
  result : Except DownstreamError ServiceResponse
  counted : CallResult
  log : List LogEntry

/-- **Concludes a call** from the way its transport ended. -/
def concludeCall (limit : Number) (r : ServiceRequest) (call : OutboundCall) (e : CallEnd) :
    ConcludedCall :=
  match e.reply.bind fun reply => (readBody? reply).map (reply, ·) with
  | some (reply, body) =>
    { result := .ok ⟨reply.status, reply.headers, body⟩
      counted := if isSuccess reply.status then .ok else .error
      log := [] }
  | none =>
    let counted := failureResult e
    { result := .error { service := r.service, message := failureMessage r.service limit counted }
      counted
      log := [.texts .warn "Downstream call failed"
        [("service", r.service), ("method", call.method), ("path", r.path),
          ("result", counted.name)]] }

/-! ### Expecting a resource -/

/-- **The data of a response** that should be a success and have a given shape. -/
def expectShape {α : Type} (service : String) (shape : Json → Option α) (r : ServiceResponse) :
    Except DownstreamError α :=
  if isSuccess r.status then
    match shape r.body with
    | some data => .ok data
    | none =>
      .error { service, message := service ++ " returned an unexpected payload", status := some r.status }
  else
    .error { service, message := service ++ " responded with " ++ toString r.status, status := some r.status }

end BearerGate
