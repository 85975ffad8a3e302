import BearerGate.Service.Basic

/-!
# Probes

Routes for looking at what the gate leaves behind: the caller, the context of a request, and how a fault
inside a handler is answered.  A probe needs nothing of the service it is put into.
-/

namespace BearerGate

/-- **The probes.** -/
inductive Probe where
  /-- The caller, on a route that is open, so that there is none. -/
  | principal
  | context
  /-- The caller, for any valid token. -/
  | any
  /-- A route for auditors and administrators. -/
  | role
  /-- A handler that fails. -/
  | error
  deriving DecidableEq, Repr

namespace Probe

def all : List Probe := [principal, context, any, role, error]

def name : Probe → String
  | principal => "principal"
  | context => "context"
  | any => "any"
  | role => "role"
  | error => "error"

/-- The answer with the caller's name. -/
def callerAnswer (i : Inbound) : Except Fault Answer :=
  i.principalOf.map fun p => .ofJson (.object [("username", .string p.username)])

/-- **What a probe answers.** -/
def answer (i : Inbound) : Probe → Except Fault Answer
  | principal | any => callerAnswer i
  | context =>
    .ok (.ofJson (.object [("requestId", .string i.context.requestId),
      ("token", .stringOrNull i.context.token)]))
  | role => .ok (.ofJson (.object [("ok", .bool true)]))
  | error => .error (.crash "secret detail")

end Probe

end BearerGate
