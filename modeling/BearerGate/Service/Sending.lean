import BearerGate.Gate.Basic
import BearerGate.Http.ErrorBody
import BearerGate.Http.Message
import BearerGate.Service.Fault
import BearerGate.Service.Task

/-!
# Sending answers

An answer can turn out to be one that cannot be sent: its body may name the time when the clock shows
none, or a header may hold a character that no header can hold.  So sending takes up to three attempts.

1. The answer itself, as a `Draft`.
2. If that fails, or if the handler has failed, the fault is reported in the form of all error answers.
3. If that fails as well, the failure is told plainly, under the status of the second attempt.

Headers that were set for one attempt stay for the next, the content type aside.  When even the third
attempt fails, what remains is a bare text under the headers that could be written.
-/

namespace BearerGate

/-- The context of a request before the gate. -/
def contextOf (r : Request) (id : String) : RequestContext where
  requestId := id
  token := bearerToken? (r.header? "authorization")

/-! ### What a fault is told as -/

/-- The report of a call on another service that failed. -/
def DownstreamError.report (e : DownstreamError) : ErrorReport where
  status := 502
  code := DownstreamError.code
  message := e.message
  details := some (.object [("service", .string e.service),
    ("status", (e.status.map Json.nat).getD .null)])

namespace Fault

/-- **The report of a fault.**  What went wrong inside a service is not told to the client. -/
def report : Fault → ErrorReport
  | auth e => e.report
  | http e => { status := e.status, code := e.code, message := e.message, details := e.details }
  | downstream e => e.report
  | unreadable status message => { status, code := "request.invalid", message }
  | crash _ => { status := 500, code := "internal.error", message := "Internal server error" }

/-- What is logged when a fault is reported. -/
def logs : Fault → List LogEntry
  | downstream e =>
    [.make .warn e.message [("service", some (.string e.service)), ("status", e.status.map .nat)]]
  | crash _ => [⟨.error, "Unhandled error", []⟩]
  | _ => []

end Fault

/-- The headers that go with a rejection. -/
def AuthError.headers (e : AuthError) (r : Request) : List (String × String) :=
  let header := rejectionHeader e (contextOf r "").bearer?.isSome
  [(Text.lower header.1, header.2)]

/-- The headers that go with a fault. -/
def Fault.headers (r : Request) : Fault → List (String × String)
  | auth e => e.headers r
  | _ => []

/-! ### Drafts -/

/-- **An answer before it is sent.**  It lacks its payload if that could not be made. -/
structure Draft where
  status : Nat
  headers : List (String × String) := []
  payload : Option Payload

namespace Draft

def ofAnswer (a : Answer) : Draft := ⟨a.status, a.headers, some a.payload⟩

/-- A report as the answer to a request. -/
def ofReport (e : ErrorReport) (headers : List (String × String)) (r : Request) (now : Number) : Draft :=
  ⟨e.status, headers, (e.body? r.target now).map .json⟩

/-- The answer to a rejected request. -/
def ofRejection (e : AuthError) (r : Request) (now : Number) : Draft :=
  ofReport e.report (e.headers r) r now

/-- The headers that stay when a draft is given up. -/
def kept (d : Draft) : List (String × String) := d.headers.filter (·.1 ≠ "content-type")

end Draft

/-! ### Attempts -/

/-- **Why an answer could not be sent.** -/
inductive SendFault where
  | noTime
  /-- A header holds a character that no header can hold. -/
  | badHeader (name : String)
  deriving DecidableEq, Repr

namespace SendFault

def code? : SendFault → Option String
  | noTime => none
  | badHeader _ => some "ERR_INVALID_CHAR"

def message : SendFault → String
  | noTime => Instant.invalidMessage
  | badHeader name => "Invalid character in header content [\"" ++ name ++ "\"]"

end SendFault

/-- An attempt that failed, with the headers that were written by then. -/
structure FailedAttempt where
  cause : SendFault
  written : List (String × String) := []

/-- **Where the answers to a request go out:** the headers that all of them have, and whether their text
is withheld. -/
structure Outlet where
  headers : List (String × String) := []
  withholdsText : Bool := false

namespace Outlet

/-- **One attempt to send a draft.** -/
def attempt (o : Outlet) (d : Draft) : Except FailedAttempt Reply :=
  match d.payload with
  | none => .error { cause := .noTime }
  | some payload =>
    let reply := ({ status := d.status, headers := d.headers, payload } : Answer).reply o.withholdsText
    let headers := o.headers ++ reply.headers
    match badHeader? headers with
    | some (written, name) => .error { cause := .badHeader name, written }
    | none => .ok { reply with headers }

end Outlet

/-! ### Faults told plainly -/

/-- The standard words for a status. -/
def standardWords (status : Nat) : String :=
  match status with
  | 413 => "Payload Too Large"
  | 415 => "Unsupported Media Type"
  | _ => statusText status

/-- The answer that tells a fault as it is. -/
def plainFault (status : Nat) (code : Option String) (message : String) : Answer :=
  .ofStatus status (.record [("statusCode", some (.nat status)), ("code", code.map .string),
    ("error", some (.string (standardWords status))), ("message", some (.string message))])

namespace SendFault

/-- A failed attempt, told plainly. -/
def plainly (f : SendFault) (status : Nat) : Answer := plainFault status f.code? f.message

/-- What is logged when a failed attempt is told plainly. -/
def log (f : SendFault) (status : Nat) : LogEntry := ⟨if status < 500 then .info else .error, f.message, []⟩

end SendFault

namespace Outlet

variable {σ : Type}

/-- The third attempt, and what remains when it fails: a text whose type nobody names. -/
def sendPlainly (o : Outlet) (kept : List (String × String)) (status : Nat) (earlier : FailedAttempt) :
    Task σ Reply := do
  Task.log (earlier.cause.log status)
  let answer := earlier.cause.plainly status
  match o.attempt ⟨status, kept, some answer.payload⟩ with
  | .ok reply => pure reply
  | .error last =>
    Task.log ⟨.warn, last.cause.message, []⟩
    pure
      { status, headers := Table.putAll earlier.written last.written
        text := (last.cause.plainly status).payload.toText }

/-- The second attempt: reports a fault.  `kept` and `written` come from the first. -/
def sendFault (o : Outlet) (r : Request) (f : Fault) (kept written : List (String × String)) :
    Task σ Reply := do
  Task.logAll f.logs
  let draft := Draft.ofReport f.report (kept ++ f.headers r) r (← Task.time)
  match o.attempt draft with
  | .ok reply => pure reply
  | .error e =>
    o.sendPlainly draft.kept draft.status { e with written := Table.putAll written e.written }

/-- The first attempt: sends a draft. -/
def sendDraft (o : Outlet) (r : Request) (d : Draft) : Task σ Reply :=
  match o.attempt d with
  | .ok reply => pure reply
  | .error e => o.sendFault r (.crash e.cause.message) d.kept e.written

/-- **Sends the answer to a request,** or reports the fault that it ended with. -/
def send (o : Outlet) (r : Request) : Except Fault Draft → Task σ Reply
  | .ok d => o.sendDraft r d
  | .error f => o.sendFault r f [] []

end Outlet

end BearerGate
