import BearerGate.Config.Basic
import BearerGate.Http.ErrorBody
import BearerGate.Http.Message
import BearerGate.Service.Task
import BearerGate.Store.Order
import BearerGate.Store.Product

/-!
# A service

What a service knows besides its state: its settings, where the other services are, and how it checks
tokens; and what a handler is given: the request with its parameters and its body, and what the gate has
found out about the caller.

`principalIn` finds the caller of a request.  Behind the gate there always is one; a handler that is open to
everyone has to expect that there is none.
-/

namespace BearerGate

/-- **The state of a service.** -/
structure ServiceState where
  products : ProductStore := {}
  orders : OrderStore := {}

/-- **A service.** -/
structure Service where
  config : Config
  registry : Registry
  gate : Gate

/-- What can keep a service from being built. -/
inductive BuildFault where
  | validator (f : ValidatorFault)
  | registry
  deriving DecidableEq, Repr

/-- **The service of a configuration.** -/
def Service.ofConfig (c : Config) (check : SignatureCheck) : Except BuildFault Service :=
  match Registry.ofTable? c.serviceUrls,
    Validator.make c.auth.issuer c.auth.audience c.auth.algorithms c.auth.clockToleranceSec with
  | none, _ => .error .registry
  | _, .error f => .error (.validator f)
  | some registry, .ok validator =>
    .ok { config := c, registry, gate := { validator, check, rolesSetting := c.auth.rolesClaimPath } }

/-- **What a handler is given.** -/
structure Inbound where
  request : Request
  parameters : List (String × String)
  context : RequestContext
  body : Json

namespace Inbound

def parameter (i : Inbound) (name : String) : String := (Table.get? i.parameters name).getD ""

/-- The body of a request that should have one; no body counts as an empty object. -/
def bodyObject (i : Inbound) : Json :=
  match i.body with
  | .null => .object []
  | j => j

end Inbound

/-- The message about a request that has not come to the gate at all. -/
def noContextMessage : String := "Request context is missing; is the validation gate registered?"

/-- The context that the gate has made for a request. -/
def contextIn (context : Option RequestContext) : Except Fault RequestContext :=
  match context with
  | some c => .ok c
  | none => .error (.crash noContextMessage)

/-- **The caller of a request,** whose context the gate may not have made. -/
def principalIn (context : Option RequestContext) : Except Fault Principal := do
  let c ← contextIn context
  match c.principal with
  | some p => .ok p
  | none => .error (.auth Rejection.noToken.toError)

/-- The caller of a request that has come to the gate. -/
def Inbound.principalOf (i : Inbound) : Except Fault Principal := principalIn (some i.context)

/-- A handler on the state of a service. -/
abbrev Handler : Type := Service → Inbound → Handling ServiceState Answer

/-- The caller, inside a handler. -/
def caller (i : Inbound) : Handling ServiceState Principal :=
  match i.principalOf with
  | .ok p => pure p
  | .error f => Handling.fail f

/-- An answer to a request whose parameters or body have issues.  It names the time, so there has to be
one. -/
def invalidAnswer (i : Inbound) (message : String) (issues : List Issue) :
    Handling ServiceState Answer := do
  let now ← Handling.ofTask Task.time
  let report : ErrorReport :=
    { status := 400, code := "request.invalid", message
      details := some (.object [("issues", .array (issues.map Issue.toJson))]) }
  match report.body? i.request.target now with
  | some body => pure (.ofStatus report.status body)
  | none => Handling.fail (.crash Instant.invalidMessage)

/-- The id that the path of a request names: a whole number above zero. -/
def idParameter (i : Inbound) : Checked Number :=
  Checked.writtenNumber [.name "id"] [.whole, .positive] (i.parameter "id")

/-! ### Calls on other services -/

/-- A log entry of the client of a service. -/
def clientLog (e : LogEntry) : LogEntry := e.tagged "component" "service-client"

/-- **Calls another service** on behalf of the caller. -/
def callService (s : Service) (context : RequestContext) (r : ServiceRequest) :
    Handling ServiceState ServiceResponse :=
  match prepareCall s.registry context r with
  | .error (.unknownService service) =>
    Handling.fail (.downstream { service, message := Registry.notFoundMessage service })
  | .error .unbuildable => Handling.fail (.crash "The call cannot be built")
  | .ok (call, log) => do
    Handling.ofTask (Task.logAll (log.map clientLog))
    let ending ← Handling.ofTask (Task.ask (.call call))
    let concluded := concludeCall s.config.downstreamTimeoutMs r call ending
    Handling.ofTask (Task.record
      (.propagatedCall r.service concluded.counted.name context.bearer?.isSome))
    Handling.ofTask (Task.logAll (concluded.log.map clientLog))
    match concluded.result with
    | .ok response => pure response
    | .error e => Handling.fail (.downstream e)

/-- Fetches a resource of a given shape from another service. -/
def fetchResource {α : Type} (s : Service) (context : RequestContext) (service path : String)
    (shape : Json → Option α) : Handling ServiceState α := do
  let response ← callService s context { service, path }
  match expectShape service shape response with
  | .ok data => pure data
  | .error e => Handling.fail (.downstream e)

end BearerGate
