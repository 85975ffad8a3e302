import BearerGate.Gate.Bearer
import BearerGate.Principal.Basic
import BearerGate.Token.Validator

/-!
# The gate

The gate decides about one request: it validates the token, draws the principal from its claims and
holds the principal against what the route asks.  The first failure is final.  A decision comes with
the last **stage** that the request reached.

The claims and the principal are left in the request's context as soon as the token is validated, also
when the principal then lacks a role.
-/

namespace BearerGate

/-- **What is known about the caller of a request.** -/
structure RequestContext where
  requestId : String
  /-- The bearer token as it was sent. -/
  token : Option String := none
  claims : Option Claims := none
  principal : Option Principal := none

/-- How far a request has come. -/
inductive Stage where
  | received
  | structurallyChecked
  | signatureChecked
  | expiryChecked
  | issuerChecked
  | audienceChecked
  | claimsExtracted
  deriving DecidableEq, Repr

namespace Stage

def name : Stage → String
  | received => "Received"
  | structurallyChecked => "StructurallyChecked"
  | signatureChecked => "SignatureChecked"
  | expiryChecked => "ExpiryChecked"
  | issuerChecked => "IssuerChecked"
  | audienceChecked => "AudienceChecked"
  | claimsExtracted => "ClaimsExtracted"

/-- The stage that a passed check leads to. -/
def afterCheck : Check → Stage
  | .form => structurallyChecked
  | .signature => signatureChecked
  | .expiry => expiryChecked
  | .issuer => issuerChecked
  | .audience => audienceChecked

/-- The stage after the checks that were passed. -/
def afterChecks (passed : List Check) : Stage :=
  (passed.getLast?.map afterCheck).getD received

end Stage

/-- **A decision about a request.** -/
inductive Decision where
  | authorized (claims : Claims) (principal : Principal)
  | rejected (cause : Rejection) (last : Stage)
  /-- The search for the key broke down. -/
  | broken (why : String)

/-- The gate of a service. -/
structure Gate where
  validator : Validator
  check : SignatureCheck
  /-- Where the roles stand in the claims. -/
  rolesSetting : String

namespace Gate

/-- The decision that follows from a validation, and the context that it leaves. -/
def conclude (g : Gate) (context : RequestContext) (requirement : Requirement) (v : Validation) :
    Decision × RequestContext :=
  match v.result with
  | .error (.rejected cause) => (.rejected cause (Stage.afterChecks v.passed), context)
  | .error (.broken why) => (.broken why, context)
  | .ok claims =>
    let principal := claims.principal g.rolesSetting
    let context := { context with claims := some claims, principal := some principal }
    if requirement.allows principal.roles then (.authorized claims principal, context)
    else (.rejected .lacksRole .claimsExtracted, context)

/-- **Running the gate** on a request, with a search for keys and a clock. -/
def run {m : Type → Type} [Monad m] (g : Gate) (lookup : String → m KeyAnswer) (now : m Number)
    (context : RequestContext) (requirement : Requirement) : m (Decision × RequestContext) :=
  match context.token with
  | none => pure (.rejected .noToken .received, context)
  | some token =>
    if token = "" then pure (.rejected .noToken .received, context)
    else do
      let v ← g.validator.validate g.check lookup now token
      pure (g.conclude context requirement v)

end Gate

/-- The challenge that goes with a rejection: what a caller has to present, and what was wrong with a
token that was presented. -/
def challenge (e : AuthError) (tokenPresented : Bool) : String :=
  if e.reason = .insufficientRole then "Bearer error=\"insufficient_scope\""
  else if tokenPresented then
    "Bearer error=\"invalid_token\", error_description=\"" ++ e.reason.code ++ "\""
  else "Bearer"

/-- How long a client should wait for missing keys, in seconds. -/
def retryAfterSeconds : Nat := 5

/-- **The header that goes with a rejection.** -/
def rejectionHeader (e : AuthError) (tokenPresented : Bool) : String × String :=
  if e.reason.outcome = .unavailable then ("Retry-After", toString retryAfterSeconds)
  else ("WWW-Authenticate", challenge e tokenPresented)

end BearerGate
