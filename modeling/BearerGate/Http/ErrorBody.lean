import BearerGate.Json.Basic
import BearerGate.Rejection
import BearerGate.Text.Blank
import BearerGate.Time.Instant

/-!
# Bodies of error answers

Every error answer of a service has a body of one form: the words for its status, a code, a message, the
path without its query, and the time.
-/

namespace BearerGate

/-- The words for the statuses that services answer with. -/
def statusText (status : Nat) : String :=
  match status with
  | 400 => "Bad Request"
  | 401 => "Unauthorized"
  | 403 => "Forbidden"
  | 404 => "Not Found"
  | 409 => "Conflict"
  | 500 => "Internal Server Error"
  | 502 => "Bad Gateway"
  | 503 => "Service Unavailable"
  | _ => "Error"

/-- The words for a status that is written in a text. -/
def wordsFor (status : String) : String :=
  (([400, 401, 403, 404, 409, 500, 502, 503].find? (toString · = status)).map statusText).getD "Error"

/-- What is said in an error answer. -/
structure ErrorReport where
  status : Nat
  code : String
  message : String
  retryable : Option Bool := none
  details : Option Json := none

/-- **The body of an error answer** to a request for an address at a time in milliseconds, with the given
status and words for it; there is none at a time that is no instant. -/
def ErrorReport.bodyWith? (e : ErrorReport) (words : String) (status : Json) (url : String)
    (clock : Number) : Option Json :=
  ((Instant.ofMillis clock).text?).map fun timestamp =>
    .record [("error", some (.string words)), ("code", some (.string e.code)),
      ("message", some (.string e.message)), ("status", some status),
      ("path", some (.string (Text.before '?' url))), ("timestamp", some (.string timestamp)),
      ("retryable", e.retryable.map .bool), ("details", e.details)]

/-- The body of an error answer under the status of the report. -/
def ErrorReport.body? (e : ErrorReport) (url : String) (clock : Number) : Option Json :=
  e.bodyWith? (statusText e.status) (.nat e.status) url clock

/-- The body of an error answer under a status of whatever kind. -/
def ErrorReport.bodyUnder? (e : ErrorReport) (status : Json) (url : String) (clock : Number) :
    Option Json :=
  e.bodyWith? (wordsFor status.plainText) status url clock

/-- **The report of a rejection.** -/
def AuthError.report (e : AuthError) : ErrorReport where
  status := e.reason.status
  code := e.reason.code
  message := e.message
  retryable := some e.retryable
  details := some (.object [("reason", .string e.reason.name)])

end BearerGate
