import BearerGate.Metrics.Basic
import BearerGate.Script
import BearerGate.Service.Client

/-!
# A scripted transport

Another service, played by a script.  Each call takes one step of the script, whatever becomes of it.
An answer of a status that never has a body loses its body; an answer that cannot be built, like a
failure, is a transport that fails; a step that hangs ends when the call's timer runs out, or when the
inbound request is given up.

`ClientSession` runs calls one after the other against such a script.
-/

namespace BearerGate

/-- **What another service does with a call.** -/
inductive Reaction where
  | answer (status : Number) (headers : List (String × String)) (body : Option String)
  | fail
  /-- Never answers; `givenUp` says that the inbound request is given up meanwhile. -/
  | hang (givenUp : Bool)
  deriving Repr

/-- A step of a scripted service: the time it takes, in milliseconds, and what it does. -/
structure ResponseStep where
  delay : Number := 0
  reaction : Reaction

namespace ResponseStep

/-- The status that a number stands for: a word of 16 bits, so a fraction is cut off and what is too large
wraps.  A number below zero keeps its sign and stands for no status, as zero does. -/
def statusOf (n : Number) : Nat := ((n.truncate?.getD 0).tmod 65536).toNat

/-- Whether an answer can have a status. -/
def isStatus (status : Nat) : Bool := 200 ≤ status && status ≤ 599

/-- Statuses whose answers never have a body. -/
def bodyless (status : Nat) : Bool := status = 204 || status = 205 || status = 304

/-- The body of an answer whose status is written as a number: none if that is one of the statuses that
never have one. -/
def bodyUnder (n : Number) (body : Option String) : Option String :=
  if n.toNat?.any bodyless then none else body

/-- The reply of an answer that can be built.  A body under a number that only stands for a status without
body is an obstacle. -/
def reply? (n : Number) (headers : List (String × String)) (body : Option String) :
    Option TransportReply :=
  let status := statusOf n
  let body := bodyUnder n body
  if isStatus status ∧ ¬(bodyless status ∧ body.isSome) then
    (Headers.ofPairs? headers).map fun headers =>
      { status, headers, body := Text.Utf8.encode (body.getD "") }
  else none

/-- **How a call ends** that meets a step, or meets none; `cancelled` says that the inbound request was
given up before the call. -/
def meet (step : Option ResponseStep) (cancelled : Bool) : CallEnd :=
  if cancelled then { reply := none, cancelled := true }
  else
    match step.map ResponseStep.reaction with
    | none | some .fail => { reply := none }
    | some (.hang givenUp) => { reply := none, timedOut := !givenUp, cancelled := givenUp }
    | some (.answer status headers body) => { reply := reply? status headers body }

end ResponseStep

/-- **Calls on scripted services,** with all they have caused so far. -/
structure ClientSession where
  registry : Registry
  /-- The time that a call has, in milliseconds. -/
  limit : Number
  script : Script ResponseStep
  metrics : Metrics := {}
  calls : List OutboundCall := []
  log : List LogEntry := []

/-- How a call fails. -/
inductive CallFailure where
  | downstream (e : DownstreamError)
  /-- The call could not be built. -/
  | unbuildable

/-- The failure of a call that was never made. -/
def CallFault.failure : CallFault → CallFailure
  | unknownService service =>
    .downstream { service, message := Registry.notFoundMessage service }
  | unbuildable => .unbuildable

namespace ClientSession

/-- **Makes one call.** -/
def request (s : ClientSession) (context : RequestContext) (cancelled : Bool) (r : ServiceRequest) :
    ClientSession × Except CallFailure ServiceResponse :=
  match prepareCall s.registry context r with
  | .error fault => (s, .error fault.failure)
  | .ok (call, log) =>
    let (step, script) := s.script.next
    let concluded := concludeCall s.limit r call (ResponseStep.meet step cancelled)
    let s := { s with
      script
      calls := s.calls ++ [call]
      log := s.log ++ log ++ concluded.log
      metrics := s.metrics.record
        (.propagatedCall r.service concluded.counted.name context.bearer?.isSome) }
    (s, concluded.result.mapError .downstream)

end ClientSession

/-! ### The key set endpoint -/

/-- How the fetch of a document over HTTP fails. -/
inductive DocumentFault where
  | transport
  | status (n : Nat)
  | notJson
  deriving DecidableEq, Repr

def DocumentFault.statusMessage (n : Nat) : String := "Key set fetch failed: HTTP " ++ toString n

/-- **The document in a reply.**  The reply has to be a success, and its body JSON of whatever type. -/
def documentOf (e : CallEnd) : Except DocumentFault Json :=
  match e.reply with
  | none => .error .transport
  | some reply =>
    if isSuccess reply.status then
      match Json.parseChars? (Text.Utf8.decodeBody reply.body) with
      | some document => .ok document
      | none => .error .notJson
    else .error (.status reply.status)

/-- The call that fetches a document. -/
def documentCall (url : Url) : OutboundCall where
  url
  method := "GET"
  headers := ⟨[("accept", "application/json")]⟩

end BearerGate
