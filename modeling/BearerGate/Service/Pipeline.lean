import BearerGate.Http.Body
import BearerGate.Http.Cors
import BearerGate.Service.RequestId
import BearerGate.Service.Route
import BearerGate.Service.Sending

/-!
# The way of a request through a service

A request that is not a preflight request first passes the gate, unless its endpoint is open, then its
body is read, and only then does its handler run.  A request that no endpoint answers goes the same way
and ends with a report of that; so whoever has no valid token learns nothing about which paths there
are.

`guard` is the gate with what it records and logs; `respond` is the whole way.  How answers and faults go
out is decided in `Outlet.send`.  Every request with a readable target is counted after its reply, under
the pattern of its endpoint.
-/

namespace BearerGate

/-- The caller of a request that the gate has let pass, or the rejection. -/
abbrev Guarded : Type := Except Fault RequestContext

/-- **Passing the gate:** records and logs the decision.  `label` is the pattern of the endpoint. -/
def guard {σ : Type} (g : Gate) (access : Access) (label : Option String) (r : Request)
    (context : RequestContext) : Task σ Guarded :=
  match access with
  | .open => do
    Task.record (.gateDecision "public" none)
    pure (.ok context)
  | .needs requirement => do
    let (decision, context) ← g.run (fun keyId => Task.ask (.key keyId)) Task.time context requirement
    match decision with
    | .authorized _ principal =>
      Task.record (.gateDecision "authorized" none)
      Task.log (.make .debug "Request authorized"
        [("username", some (.string principal.username)), ("path", label.map .string)])
      pure (.ok context)
    | .rejected cause last =>
      Task.record (.gateDecision "rejected" (some cause.reason.name))
      Task.log (.texts .warn "Request rejected by validation gate"
        [("reason", cause.reason.name), ("stage", last.name), ("path", Text.before '?' r.target)])
      pure (.error (.auth cause.toError))
    | .broken why => pure (.error (.crash why))

/-- The report of a request that no endpoint answers. -/
def unmatchedReport (r : Request) : ErrorReport where
  status := 404
  code := "route.not_found"
  message := "Route " ++ r.method ++ " " ++ Text.before '?' r.target ++ " not found"

/-- Reads the body of a request; where no endpoint waits for it, any content type will do. -/
def bodyFor (m : Option Match) (r : Request) : Except BodyFault Json :=
  match readBody r, m with
  | .error (.unsupported _), none => .ok .null
  | result, _ => result

/-- The part of the way behind the gate. -/
def handle (s : Service) (m : Option Match) (r : Request) (context : RequestContext) :
    Task ServiceState (Except Fault Draft) :=
  match bodyFor m r with
  | .error f => pure (.error (.unreadable f.status f.message))
  | .ok body =>
    match m with
    | none => do return .ok (.ofReport (unmatchedReport r) [] r (← Task.time))
    | some m => do
      let result ← (m.endpoint.handler s { request := r, parameters := m.parameters, context, body }).run
      pure (result.map Draft.ofAnswer)

/-- What a request may do at its endpoint; where there is none it needs a valid token. -/
def accessOf : Option Match → Access
  | some m => m.endpoint.access
  | none => .needs .anyone

/-- The answer to a request that is not a preflight request.  A rejection by the gate is an answer like
any other, not a fault. -/
def answerRequest (s : Service) (m : Option Match) (r : Request) (id : String) :
    Task ServiceState (Except Fault Draft) := do
  match ← guard s.gate (accessOf m) (m.map (·.endpoint.label)) r (contextOf r id) with
  | .error (.auth e) => return .ok (.ofRejection e r (← Task.time))
  | .error f => pure (.error f)
  | .ok context => handle s m r context

/-- The route under which a request is counted. -/
def routeLabel (m : Option Match) : String := (m.map (·.endpoint.label)).getD "unmatched"

/-- Whether the text of a reply is withheld: only an endpoint does that, and only from `HEAD`. -/
def withholdsText (m : Option Match) (method : String) : Bool := m.isSome && method = "HEAD"

/-- The reply to a target that cannot be read. -/
def badTargetReply (target : String) : Reply where
  status := 400
  headers := [("content-type", "application/json")]
  text := "\x7b\"error\":\"Bad Request\",\"code\":\"FST_ERR_BAD_URL\",\"message\":\"'" ++
    String.ofList (Target.fromPath target) ++ "' is not a valid url component\",\"statusCode\":400\x7d"

/-- The milliseconds between two readings of the timer. -/
def durationBetween (start stop : Int) : Number := (Number.ofInt (stop - start)).divNat 1000000

/-- Counts a request after its reply. -/
def countRequest {σ : Type} (method route : String) (status : Nat) (duration : Number) : Task σ Unit :=
  Task.record (.request method route (.ofNat status) duration)

/-- The headers by which a service lets pages of other origins read its reply to a request. -/
def Service.corsHeaders (s : Service) (r : Request) : List (String × String) :=
  BearerGate.corsHeaders (AllowedOrigins.ofList s.config.corsAllowedOrigins) (r.filledHeader? "origin")

/-- The way of a request that is not a preflight request and has a readable target. -/
def travel (s : Service) (m : Option Match) (r : Request) : Task ServiceState Reply := do
  let id ← requestId r
  let start ← Task.timer
  let result ← answerRequest s m r id
  let outlet : Outlet :=
    { headers := s.corsHeaders r ++ [("x-request-id", id)], withholdsText := withholdsText m r.method }
  let reply ← outlet.send r result
  let stop ← Task.timer
  countRequest r.method (routeLabel m) reply.status (durationBetween start stop)
  pure reply

/-- The way of a preflight request: it is numbered, answered and counted. -/
def preflight (s : Service) (r : Request) : Task ServiceState Reply := do
  let _ ← requestId r
  let outlet : Outlet := { headers := s.corsHeaders r }
  let reply ← outlet.send r (.ok (.ofAnswer (preflightAnswer r)))
  countRequest r.method "*" reply.status 0
  pure reply

/-- **The way of a request through a service.**  A target that cannot be read ends it before everything
else; if there is no endpoint for the method either, it is at least numbered.  There the reply is all or
nothing: at a time that is no instant there is none. -/
def respond (s : Service) (endpoints : List Endpoint) (r : Request) : Task ServiceState (Option Reply) :=
  if r.method = "OPTIONS" then
    if (Target.segments? r.target).isNone then pure (some (badTargetReply r.target))
    else some <$> preflight s r
  else
    match route endpoints r.method r.target with
    | .badTarget => pure (some (badTargetReply r.target))
    | .nowhere => do
      let _ ← requestId r
      let draft := Draft.ofReport (unmatchedReport r) [] r (← Task.time)
      pure ((({} : Outlet).attempt draft).toOption)
    | .unmatched => some <$> travel s none r
    | .matched m => some <$> travel s (some m) r

end BearerGate
