import BearerGate.Service.Pipeline

/-!
# The gate on its own

A server that has nothing but the gate and the probes.  Requests of pages of other origins mean nothing
to it, so a preflight request passes like one to an open endpoint; and it has no wording of its own for
faults, so they are told as they are.
-/

namespace BearerGate

def plainFaultAnswer : Fault → Answer
  | .auth e => plainFault e.reason.status (some e.reason.code) e.message
  | .http e => plainFault e.status (some e.code) e.message
  | .downstream e => plainFault 500 (some DownstreamError.code) e.message
  | .unreadable status message => plainFault status none message
  | .crash message => plainFault 500 none message

/-- The answer to a request that no probe answers. -/
def plainUnmatched (r : Request) : Answer :=
  .ofStatus 404 (.object [("message", .string ("Route " ++ r.method ++ ":" ++ r.target ++ " not found")),
    ("error", .string "Not Found"), ("statusCode", .nat 404)])

/-- The part of the way behind the gate. -/
def plainHandle (m : Option Match) (r : Request) (context : RequestContext) : Answer :=
  match bodyFor m r with
  | .error f => plainFault f.status f.code? f.message
  | .ok body =>
    match m with
    | some { endpoint := .probe p, parameters } =>
      match p.answer { request := r, parameters, context, body } with
      | .ok a => a
      | .error f => plainFaultAnswer f
    | _ => plainUnmatched r

/-- The answer to a rejected request; at a time that is no instant, that is all there is to say. -/
def plainRejection (e : AuthError) (r : Request) (now : Number) : Answer :=
  let draft := Draft.ofRejection e r now
  { status := draft.status, headers := draft.headers
    payload := draft.payload.getD (SendFault.noTime.plainly draft.status).payload }

/-- The answer to a request with a readable target. -/
def answerBare {σ : Type} (g : Gate) (m : Option Match) (r : Request) : Task σ Answer := do
  let id ← requestId r
  let context := contextOf r id
  let guarded ←
    if r.method = "OPTIONS" then pure (.ok context)
    else guard g (accessOf m) (m.map (·.endpoint.label)) r context
  match guarded with
  | .ok context => pure (plainHandle m r context)
  | .error (.auth e) => return plainRejection e r (← Task.time)
  | .error f => pure (plainFaultAnswer f)

/-- The reply to a request with a readable target. -/
def travelBare {σ : Type} (g : Gate) (m : Option Match) (r : Request) : Task σ Reply := do
  return (← answerBare g m r).reply (withholdsText m r.method)

/-- **The way of a request through the gate alone.** -/
def respondBare {σ : Type} (g : Gate) (r : Request) : Task σ Reply :=
  match route Endpoint.probes r.method r.target with
  | .badTarget => pure (badTargetReply r.target)
  | .nowhere => do
    let _ ← requestId r
    pure ((plainUnmatched r).reply false)
  | .unmatched => travelBare g none r
  | .matched m => travelBare g (some m) r

end BearerGate
