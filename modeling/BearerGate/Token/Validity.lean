import BearerGate.Time.Instant
import BearerGate.Text.Blank
import BearerGate.Token.Basic

/-!
# Times, issuer and audience of a token

The checks on the claims of a payload, and the claims that a token has proved once all checks are
passed.  They read the payload alone; only the check of the times looks at the clock.
-/

namespace BearerGate

/-- **The check of the times.**  A token counts until `exp`, and from `nbf` if that is a number; both
limits are widened by a tolerance in seconds.  The clock is in milliseconds. -/
def checkTimes (tolerance now : Number) (payload : Members) : Except Rejection Unit :=
  let seconds := now.divNat 1000
  match Table.get? payload "exp" with
  | some (.number exp) =>
    if seconds < exp + tolerance then
      match Table.get? payload "nbf" with
      | some (.number nbf) => if seconds < nbf - tolerance then .error .notYetValid else .ok ()
      | _ => .ok ()
    else .error .expired
  | _ => .error .noExpiry

/-- **The check of the issuer.** -/
def checkIssuer (expected : String) (payload : Members) : Except Rejection Unit :=
  match Table.get? payload "iss" with
  | some (.string iss) => if iss = expected then .ok () else .error .foreignIssuer
  | _ => .error .foreignIssuer

/-- **The audiences that an `aud` claim names:** the claim itself, or the strings in an array. -/
def audiencesOf : Option Json → List String
  | some (.string s) => [s]
  | some (.array elements) => Text.distinct (elements.filterMap Json.string?)
  | _ => []

/-- **The check of the audience.** -/
def checkAudience (expected : String) (payload : Members) : Except Rejection Unit :=
  if (audiencesOf (Table.get? payload "aud")).contains expected then .ok ()
  else .error .foreignAudience

/-- **What a token has proved.** -/
structure Claims where
  subject : String
  issuer : String
  audiences : List String
  issuedAt : Option Instant
  expiresAt : Instant
  /-- All members of the payload. -/
  raw : Members

/-- The instant of a claim that is a finite number of seconds. -/
def instantOf? : Option Json → Option Instant
  | some (.number n) => if n.isFinite then some (.ofSeconds n) else none
  | _ => none

/-- The claims of a token that has passed every check. -/
def Token.claims (t : Token) : Claims where
  subject := t.subject
  issuer := ((t.claim? "iss").bind Json.string?).getD ""
  audiences := audiencesOf (t.claim? "aud")
  issuedAt := instantOf? (t.claim? "iat")
  expiresAt := .ofSeconds (((t.claim? "exp").bind Json.number?).getD .nan)
  raw := t.payload

end BearerGate
