import BearerGate.Token.Signature
import BearerGate.Token.Validity

/-!
# Validating a token

Five checks in a fixed order: structure, signature, times, issuer, audience.  The first that fails
decides.  Only the signature needs something from outside, the key that the issuer publishes under the
token's key id, so validation is a **plan**: either it is settled without any key, or it says which key
id it needs and what it will answer once it has it.  A key is asked for at most once, and never for a
token whose structure, algorithm or key id is already at fault.
-/

namespace BearerGate

/-- The checks, in their order. -/
inductive Check where
  | form
  | signature
  | expiry
  | issuer
  | audience
  deriving DecidableEq, Repr

def Check.name : Check → String
  | form => "structure"
  | signature => "signature"
  | expiry => "expiry"
  | issuer => "issuer"
  | audience => "audience"

/-- What a validator demands of a token. -/
structure Validator where
  issuer : String
  audience : String
  algorithms : List SigningAlgorithm := [.rs256]
  /-- How far the clocks may be apart, in seconds. -/
  tolerance : Number := 0

/-- Why there can be no such validator. -/
inductive ValidatorFault where
  | blankIssuer
  | blankAudience
  deriving DecidableEq, Repr

def ValidatorFault.message : ValidatorFault → String
  | blankIssuer => "Token validator requires an expected issuer"
  | blankAudience => "Token validator requires an expected audience"

/-- A validator, which has an issuer and an audience that are not blank. -/
def Validator.make (issuer audience : String) (algorithms : List SigningAlgorithm)
    (tolerance : Number) : Except ValidatorFault Validator :=
  if Text.trim issuer = "" then .error .blankIssuer
  else if Text.trim audience = "" then .error .blankAudience
  else .ok { issuer, audience, algorithms, tolerance }

/-- What the search for a key comes to. -/
inductive KeyAnswer where
  | found (entry : KeyEntry)
  | absent
  /-- The keys of the issuer cannot be had. -/
  | unavailable (cause : Rejection)
  /-- The search itself broke down. -/
  | broken (why : String)
  deriving Repr

/-- How a validation ends without claims. -/
inductive Failure where
  | rejected (cause : Rejection)
  /-- The search for the key broke down. -/
  | broken (why : String)
  deriving DecidableEq, Repr

/-- **The result of a validation,** with the checks that were passed. -/
structure Validation where
  passed : List Check
  result : Except Failure Claims

namespace Validation

def reject (passed : List Check) (cause : Rejection) : Validation := ⟨passed, .error (.rejected cause)⟩

end Validation

/-- **A validation that may be waiting for a key.** -/
inductive Plan where
  | settled (v : Validation)
  | needsKey (keyId : String) (resume : KeyAnswer → (now : Number) → Validation)

namespace Validator

/-- The checks that follow the signature. -/
def checkClaims (v : Validator) (now : Number) (t : Token) : Validation :=
  match checkTimes v.tolerance now t.payload with
  | .error cause => .reject [.form, .signature] cause
  | .ok () =>
    match checkIssuer v.issuer t.payload with
    | .error cause => .reject [.form, .signature, .expiry] cause
    | .ok () =>
      match checkAudience v.audience t.payload with
      | .error cause => .reject [.form, .signature, .expiry, .issuer] cause
      | .ok () => ⟨[.form, .signature, .expiry, .issuer, .audience], .ok t.claims⟩

/-- What the answer to a search for the key means for a token that names a given algorithm. -/
def checkKey (check : SignatureCheck) (t : Token) (a : SigningAlgorithm) :
    KeyAnswer → Except Failure Unit
  | .broken why => .error (.broken why)
  | .unavailable cause => .error (.rejected cause)
  | .absent => .error (.rejected .unknownKey)
  | .found entry =>
    if entry.algorithm ≠ a then .error (.rejected .otherKeyAlgorithm)
    else if t.verifies check entry then .ok ()
    else .error (.rejected .badSignature)

/-- **The plan of a validation.** -/
def plan (v : Validator) (check : SignatureCheck) (raw : String) : Plan :=
  match Token.ofText raw with
  | .error cause => .settled (.reject [] cause)
  | .ok t =>
    match SigningAlgorithm.ofName? t.algorithm with
    | none => .settled (.reject [.form] .algorithmNotAccepted)
    | some a =>
      if v.algorithms.contains a then
        match t.keyId? with
        | none => .settled (.reject [.form] .noKeyId)
        | some keyId =>
          .needsKey keyId fun answer now =>
            match checkKey check t a answer with
            | .error failure => ⟨[.form], .error failure⟩
            | .ok () => v.checkClaims now t
      else .settled (.reject [.form] .algorithmNotAccepted)

/-- **Validating a token** with a search for keys and a clock; both may have effects. -/
def validate {m : Type → Type} [Monad m] (v : Validator) (check : SignatureCheck)
    (lookup : String → m KeyAnswer) (now : m Number) (raw : String) : m Validation :=
  match v.plan check raw with
  | .settled result => pure result
  | .needsKey keyId resume => do
    let answer ← lookup keyId
    let time ← now
    pure (resume answer time)

end Validator

end BearerGate
