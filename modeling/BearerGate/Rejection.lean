/-!
# Why a request is turned away

Every check that can turn a request away has a **reason**; reasons fall into three outcomes, each with
an HTTP status, and every reason has a code that clients see.

`Rejection` lists the causes one by one.  The message of a cause is a fixed text: no part of a token, a
claim or a key can appear in it.  `AuthError` is what is reported about a rejection: reason, message,
and the issuer when it is the issuer's keys that are missing.
-/

namespace BearerGate

/-- The reason for turning a request away. -/
inductive Reason where
  | missingToken
  | malformed
  | signatureInvalid
  | expired
  | notYetValid
  | issuerMismatch
  | audienceMismatch
  | insufficientRole
  | keySetUnavailable
  deriving DecidableEq, Repr

namespace Reason

def all : List Reason :=
  [missingToken, malformed, signatureInvalid, expired, notYetValid, issuerMismatch, audienceMismatch,
    insufficientRole, keySetUnavailable]

def name : Reason → String
  | missingToken => "MissingToken"
  | malformed => "Malformed"
  | signatureInvalid => "SignatureInvalid"
  | expired => "Expired"
  | notYetValid => "NotYetValid"
  | issuerMismatch => "IssuerMismatch"
  | audienceMismatch => "AudienceMismatch"
  | insufficientRole => "InsufficientRole"
  | keySetUnavailable => "KeySetUnavailable"

def ofName? (s : String) : Option Reason := all.find? (·.name = s)

/-- The code that a client sees. -/
def code : Reason → String
  | missingToken => "auth.missing_token"
  | malformed => "auth.malformed"
  | signatureInvalid => "auth.signature_invalid"
  | expired => "auth.expired"
  | notYetValid => "auth.not_yet_valid"
  | issuerMismatch => "auth.issuer_mismatch"
  | audienceMismatch => "auth.audience_mismatch"
  | insufficientRole => "auth.insufficient_role"
  | keySetUnavailable => "auth.key_set_unavailable"

/-- How a rejection is reported. -/
inductive Outcome where
  | unauthenticated
  | forbidden
  | unavailable
  deriving DecidableEq, Repr

def outcome : Reason → Outcome
  | insufficientRole => .forbidden
  | keySetUnavailable => .unavailable
  | _ => .unauthenticated

end Reason

namespace Reason.Outcome

def name : Outcome → String
  | unauthenticated => "unauthenticated"
  | forbidden => "forbidden"
  | unavailable => "unavailable"

def status : Outcome → Nat
  | unauthenticated => 401
  | forbidden => 403
  | unavailable => 503

end Reason.Outcome

/-- The status of a reason's answer. -/
def Reason.status (r : Reason) : Nat := r.outcome.status

/-- **What is reported about a rejection.** -/
structure AuthError where
  reason : Reason
  message : String
  /-- The issuer whose signing keys are missing. -/
  issuer : Option String := none
  deriving DecidableEq, Repr

/-- Only missing signing keys make it worth trying the same token again. -/
def AuthError.retryable (e : AuthError) : Bool := e.reason = .keySetUnavailable

/-- **The cause of a rejection.** -/
inductive Rejection where
  | noToken
  | notThreeSegments
  | notEncodedJson
  | noAlgorithm
  | noSubject
  | algorithmNotAccepted
  | noKeyId
  | unknownKey
  | otherKeyAlgorithm
  | badSignature
  | noExpiry
  | expired
  | notYetValid
  | foreignIssuer
  | foreignAudience
  | lacksRole
  | keysUnreachable (issuer : String)
  | keysMisshapen (issuer : String)
  deriving DecidableEq, Repr

namespace Rejection

def reason : Rejection → Reason
  | noToken => .missingToken
  | notThreeSegments | notEncodedJson | noAlgorithm | noSubject => .malformed
  | algorithmNotAccepted | noKeyId | unknownKey | otherKeyAlgorithm | badSignature => .signatureInvalid
  | noExpiry | expired => .expired
  | notYetValid => .notYetValid
  | foreignIssuer => .issuerMismatch
  | foreignAudience => .audienceMismatch
  | lacksRole => .insufficientRole
  | keysUnreachable _ | keysMisshapen _ => .keySetUnavailable

def message : Rejection → String
  | noToken => "Bearer token required"
  | notThreeSegments => "Token must consist of three non-empty segments"
  | notEncodedJson => "Token header or payload is not valid encoded JSON"
  | noAlgorithm => "Token header has no algorithm"
  | noSubject => "Token has no subject"
  | algorithmNotAccepted => "Token algorithm is not accepted"
  | noKeyId => "Token header has no key id"
  | unknownKey => "No signing key matches the token key id"
  | otherKeyAlgorithm => "Token algorithm does not match the signing key"
  | badSignature => "Token signature does not verify"
  | noExpiry => "Token has no expiry"
  | expired => "Token has expired"
  | notYetValid => "Token is not valid yet"
  | foreignIssuer => "Token was issued by an untrusted issuer"
  | foreignAudience => "Token is not intended for this service"
  | lacksRole => "Principal lacks every role required by this route"
  | keysUnreachable _ => "Signing keys could not be retrieved from the issuer"
  | keysMisshapen _ => "Issuer returned an invalid key set document"

/-- The issuer that a rejection is about, if it is about an issuer's keys. -/
def issuer? : Rejection → Option String
  | keysUnreachable issuer | keysMisshapen issuer => some issuer
  | _ => none

def toError (r : Rejection) : AuthError := ⟨r.reason, r.message, r.issuer?⟩

end Rejection

end BearerGate
