import Mathlib
import BearerGate.Proofs.Json.Equality
import BearerGate.Proofs.Token.Acceptance

/-!
# What a signature covers

A signature is over the text of a token before its second point.  Which octets that text carries as the
**payload** depends on the header: mostly they are encoded in the second segment, but a header can declare
that its payload is written plainly, and then they are the characters of the segment themselves
(`Token.SignedPayload`).

A validator always takes its claims from what the second segment encodes.  So its claims are the payload
that was signed as long as the header does not declare a plain one (`Validator.claims_signed`); a
token with a plain payload is accepted all the same, with claims that nobody has signed
(`Validator.claims_not_signed`).
-/

namespace BearerGate

namespace Token

/-- **A header that declares a plain payload:** `b64` is false, and listed among the members that the reader
has to mind. -/
structure DeclaresPlain (header : Members) : Prop where
  critical : ∃ names, Table.get? header "crit" = some (.array names) ∧ Json.string "b64" ∈ names
  plain : Table.get? header "b64" = some (.bool false)

/-- **The octets that are signed as the payload** of a token with a given header and second segment. -/
inductive SignedPayload (header : Members) (segment : String) : List UInt8 → Prop
  | plain (declared : DeclaresPlain header) : SignedPayload header segment (Text.Utf8.encode segment)
  | encoded (undeclared : ¬DeclaresPlain header) :
    SignedPayload header segment (Text.Base64url.decode segment)

/-- The members of the JSON object that octets are the text of. -/
def membersIn? (octets : List UInt8) : Option Members :=
  (Json.parseChars? (Text.Utf8.decodeText octets)).bind Json.members?

theorem objectOf?_eq (segment : String) : objectOf? segment = membersIn? (Text.Base64url.decode segment) := rfl

/-- **What a segment encodes is signed** unless the header declares a plain payload; then it has to say the
same as the segment's own text. -/
theorem signed_iff {header : Members} {segment : String} {members : Members}
    (encoded : objectOf? segment = some members) :
    (∀ octets, SignedPayload header segment octets → membersIn? octets = some members) ↔
      (DeclaresPlain header → membersIn? (Text.Utf8.encode segment) = some members) := by
  constructor
  · intro signed declared
    exact signed _ (.plain declared)
  · intro as_text octets payload
    cases payload with
    | plain declared => exact as_text declared
    | encoded undeclared =>
      rw [← objectOf?_eq]
      exact encoded

end Token

namespace Validator

/-- **Whatever is validated was accepted:** the token is written as tokens are, and accepted under a key
that was found, at a time that was read. -/
theorem accepted_of_validate {σ : Type} {v : Validator} {check : SignatureCheck}
    {lookup : String → StateM σ KeyAnswer} {clock : StateM σ Number} {raw : String} {world : σ}
    {claims : Claims} (valid : (v.validate check lookup clock raw world).1.result = .ok claims) :
    ∃ t keyId entry now, Token.Written raw t ∧ Token.Accepted v check t keyId entry now ∧
      claims = t.claims := by
  cases planned : v.plan check raw with
  | settled r =>
    simp only [validate, planned] at valid
    exact absurd valid (settled_result_ne_ok planned claims)
  | needsKey keyId resume =>
    simp only [validate, planned] at valid
    obtain ⟨t, a, written, eligible, rfl⟩ := plan_eq_needsKey_iff.1 planned
    obtain ⟨entry, -, accepted, claims_eq⟩ := (resumption_eq_ok_iff eligible).1 valid
    exact ⟨t, keyId, entry, _, written, accepted, claims_eq⟩

/-- **The claims are the signed payload,** as long as the header does not declare a plain one.  The
signature of every token that is accepted holds over its text before the second point, and the claims are
those of the object that the second segment encodes; they are those of the payload that was signed just if
a header that declares a plain payload comes with a segment whose own text says the same. -/
theorem claims_signed {σ : Type} {v : Validator} {check : SignatureCheck}
    {lookup : String → StateM σ KeyAnswer} {clock : StateM σ Number} {raw : String} {world : σ}
    {claims : Claims} (valid : (v.validate check lookup clock raw world).1.result = .ok claims) :
    ∃ (t : Token) (entry : KeyEntry) (h p s : String), Token.Written raw t ∧
      raw = h ++ "." ++ p ++ "." ++ s ∧ Token.IsSegment h ∧ Token.IsSegment p ∧ Token.IsSegment s ∧
      Token.objectOf? h = some t.header ∧
      check entry.key entry.algorithm (Text.Utf8.encode (h ++ "." ++ p)) (Text.Base64url.decode s) = true ∧
      claims = t.claims ∧ Token.objectOf? p = some claims.raw ∧
      ((∀ octets, Token.SignedPayload t.header p octets → Token.membersIn? octets = some claims.raw) ↔
        (Token.DeclaresPlain t.header → Token.membersIn? (Text.Utf8.encode p) = some claims.raw)) := by
  obtain ⟨t, keyId, entry, now, written, accepted, rfl⟩ := accepted_of_validate valid
  obtain rfl := written.same_text
  obtain ⟨h, p, s, joined, hh, hp, hs, header_eq, payload_eq⟩ := written.segments
  have cut : Token.segments? t.raw = some (h, p, s) := Token.segments?_eq_some_iff.2 ⟨joined, hh, hp, hs⟩
  have holds : check entry.key entry.algorithm (Text.Utf8.encode (h ++ "." ++ p))
      (Text.Base64url.decode s) = true := by
    have signature := accepted.signature
    simp only [Token.verifies, Token.signedParts, cut, Bool.and_eq_true] at signature
    exact signature.2
  exact ⟨t, entry, h, p, s, written, joined, hh, hp, hs, header_eq, holds, rfl, payload_eq,
    Token.signed_iff payload_eq⟩

/-! ### Two tokens -/

/-- The second segment of a token of somebody whose claims never expire. -/
private def lastingSegment : String := "eyJzdWIiOiJzIiwiaXNzIjoiaSIsImF1ZCI6ImEiLCJleHAiOjFlOTk5fQ"

/-- A token with those claims and three bytes for a signature; its header has the critical member `b64`. -/
private def lasting (headerSegment : String) (b64 : Bool) : Token where
  raw := headerSegment ++ "." ++ lastingSegment ++ "." ++ "AQID"
  header := [("alg", .string "RS256"), ("kid", .string "k"), ("crit", .array [.string "b64"]), ("b64", .bool b64)]
  payload := [("sub", .string "s"), ("iss", .string "i"), ("aud", .string "a"),
    ("exp", .number (.infinite false))]
  algorithm := "RS256"
  subject := "s"

private def encodedHeader : String :=
  "eyJhbGciOiJSUzI1NiIsImtpZCI6ImsiLCJjcml0IjpbImI2NCJdLCJiNjQiOnRydWV9"

private def plainHeader : String :=
  "eyJhbGciOiJSUzI1NiIsImtpZCI6ImsiLCJjcml0IjpbImI2NCJdLCJiNjQiOmZhbHNlfQ"

/-- The check under which those three bytes sign one text, and nothing else is signed. -/
private def signedText (text : String) : SignatureCheck := fun _ _ message signature =>
  message = Text.Utf8.encode text && signature = [1, 2, 3]

private def soleKey : KeyEntry := ⟨"k", .rsa ⟨33, 3⟩, .rs256⟩

private def soleKeyUnder (keyId : String) : StateM Unit KeyAnswer :=
  pure (if keyId = "k" then .found soleKey else .absent)

private def plainValidator : Validator := ⟨"i", "a", [.rs256], 0⟩

private theorem lasting_written {headerSegment : String} {b64 : Bool}
    (segment : Token.IsSegment headerSegment)
    (header : Token.objectOf? headerSegment = some (lasting headerSegment b64).header) :
    Token.Written (lasting headerSegment b64).raw (lasting headerSegment b64) where
  same_text := rfl
  segments := by
    have payload : Token.objectOf? lastingSegment = some (lasting headerSegment b64).payload := by
      unfold lasting
      dsimp only
      decide +kernel
    exact ⟨headerSegment, lastingSegment, "AQID", rfl, segment, by decide, by decide, header, payload⟩
  algorithm := rfl
  subject := rfl
  subject_ne := show "s" ≠ "" by decide

private theorem lasting_validates {headerSegment : String} {b64 : Bool}
    (segment : Token.IsSegment headerSegment)
    (header : Token.objectOf? headerSegment = some (lasting headerSegment b64).header) :
    (plainValidator.validate (signedText (headerSegment ++ "." ++ lastingSegment)) soleKeyUnder (pure 1000)
      (lasting headerSegment b64).raw ()).1.result = .ok (lasting headerSegment b64).claims := by
  have cut : Token.segments? (lasting headerSegment b64).raw =
      some (headerSegment, lastingSegment, "AQID") :=
    Token.segments?_eq_some_iff.2 ⟨rfl, segment, by decide, by decide⟩
  have written := lasting_written segment header
  have eligible : Token.Eligible plainValidator (lasting headerSegment b64) .rs256 "k" :=
    { named := rfl
      accepted := by decide
      keyId_there := rfl
      keyId_ne := by decide }
  have signature : (lasting headerSegment b64).verifies
      (signedText (headerSegment ++ "." ++ lastingSegment)) soleKey = true := by
    have understood : Token.criticalUnderstood (lasting headerSegment b64).header = true := rfl
    have decoded : Text.Base64url.decode "AQID" = [1, 2, 3] := by decide
    simp [Token.verifies, Token.signedParts, cut, signedText, decoded, understood]
  have accepted : Token.Accepted plainValidator (signedText (headerSegment ++ "." ++ lastingSegment))
      (lasting headerSegment b64) "k" soleKey 1000 :=
    { eligible with
      signature
      expiry := ⟨.infinite false, rfl, by decide +kernel⟩
      notBefore := by
        intro nbf there
        have absent : Table.get? (lasting headerSegment b64).payload "nbf" = none := rfl
        rw [absent] at there
        cases there
      issuer := rfl
      audience := .inl rfl }
  have planned : plainValidator.plan (signedText (headerSegment ++ "." ++ lastingSegment))
      (lasting headerSegment b64).raw = .needsKey "k" _ :=
    plan_eq_needsKey_iff.2 ⟨_, _, written, eligible, rfl⟩
  simp only [validate, planned]
  exact (resumption_eq_ok_iff eligible).2 ⟨_, rfl, accepted, rfl⟩

private theorem encodedHeader_object :
    Token.objectOf? encodedHeader = some (lasting encodedHeader true).header := by
  decide +kernel

private theorem plainHeader_object :
    Token.objectOf? plainHeader = some (lasting plainHeader false).header := by
  decide +kernel

/-- A token whose header declares, in so many words, that its payload is encoded: its claims are signed. -/
theorem claims_signed_encoded :
    (plainValidator.validate (signedText (encodedHeader ++ "." ++ lastingSegment)) soleKeyUnder (pure 1000)
        (lasting encodedHeader true).raw ()).1.result = .ok (lasting encodedHeader true).claims ∧
      ∃ h p s, (lasting encodedHeader true).raw = h ++ "." ++ p ++ "." ++ s ∧
        ∀ octets, Token.SignedPayload (lasting encodedHeader true).header p octets →
          Token.membersIn? octets = some (lasting encodedHeader true).payload := by
  have valid := lasting_validates (by decide) encodedHeader_object
  obtain ⟨t, entry, h, p, s, written, joined, -, -, -, -, -, -, -, signed⟩ := claims_signed valid
  -- A text stands for one token only.
  have same : t = lasting encodedHeader true := by
    have read := Token.ofText_eq_ok_iff.2 (lasting_written (by decide) encodedHeader_object)
    rw [Token.ofText_eq_ok_iff.2 written] at read
    cases read
    rfl
  subst same
  refine ⟨valid, h, p, s, joined, signed.2 ?_⟩
  intro declared
  cases declared.plain

/-- **A token with a plain payload is accepted,** with claims that are not the payload that was signed. -/
theorem claims_not_signed :
    (plainValidator.validate (signedText (plainHeader ++ "." ++ lastingSegment)) soleKeyUnder (pure 1000)
        (lasting plainHeader false).raw ()).1.result = .ok (lasting plainHeader false).claims ∧
      Token.DeclaresPlain (lasting plainHeader false).header ∧
      ∃ octets, Token.SignedPayload (lasting plainHeader false).header lastingSegment octets ∧
        Token.membersIn? octets = none := by
  have declared : Token.DeclaresPlain (lasting plainHeader false).header :=
    ⟨⟨[.string "b64"], rfl, by simp⟩, rfl⟩
  refine ⟨lasting_validates (by decide) plainHeader_object, declared, _, .plain declared, ?_⟩
  decide +kernel

end Validator

end BearerGate
