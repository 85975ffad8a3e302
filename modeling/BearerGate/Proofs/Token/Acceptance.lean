import BearerGate.Proofs.Text.Distinct
import BearerGate.Proofs.Token.Form

/-!
# When a token is accepted

The checks of a validation, each with the condition under which it passes, and the plan that puts them
together.

* `Token.Eligible` says of which tokens a validator wants to know the key, and under which id;
  `Validator.plan_eq_needsKey_iff` says that it asks for the key of those and of no others.
* `Token.Accepted` says what has to hold of a token, of the key that was found for it and of the time;
  `Validator.resumption_eq_ok_iff` says that the validation then ends with the claims of the token, and
  with a failure otherwise.

Neither condition mentions the checks or the plan.
-/

namespace BearerGate

/-! ### The checks of the claims -/

theorem checkTimes_eq_ok_iff {tolerance now : Number} {payload : Members} :
    checkTimes tolerance now payload = .ok () ↔
      (∃ exp, Table.get? payload "exp" = some (.number exp) ∧ now.divNat 1000 < exp + tolerance) ∧
        ∀ nbf, Table.get? payload "nbf" = some (.number nbf) → ¬now.divNat 1000 < nbf - tolerance := by
  unfold checkTimes
  split
  · rename_i exp exp_eq
    simp only [exp_eq, Option.some.injEq, Json.number.injEq, exists_eq_left']
    split
    · rename_i young
      split
      · rename_i nbf nbf_eq
        split <;> rename_i early <;> simp [nbf_eq, young, early]
      · rename_i no_number
        simp [young]
        exact fun nbf nbf_eq => absurd nbf_eq (no_number nbf)
    · rename_i old
      simp [old]
  · rename_i no_number
    constructor
    · intro h
      cases h
    · rintro ⟨⟨exp, exp_eq, -⟩, -⟩
      exact absurd exp_eq (no_number exp)

theorem checkIssuer_eq_ok_iff {expected : String} {payload : Members} :
    checkIssuer expected payload = .ok () ↔ Table.get? payload "iss" = some (.string expected) := by
  unfold checkIssuer
  split
  · rename_i iss iss_eq
    by_cases same : iss = expected <;> simp [iss_eq, same]
  · rename_i no_string
    simp only [reduceCtorEq, false_iff]
    exact no_string expected

/-- **The audiences of a claim** are the claim itself, if it is a string, and the strings among its
elements, if it is an array. -/
theorem mem_audiencesOf_iff {aud : Option Json} {audience : String} :
    audience ∈ audiencesOf aud ↔
      aud = some (.string audience) ∨
        ∃ elements, aud = some (.array elements) ∧ Json.string audience ∈ elements := by
  have string_iff : ∀ j : Json, Json.string? j = some audience ↔ j = .string audience := by
    intro j
    cases j <;> simp [Json.string?]
  unfold audiencesOf
  split
  · simp [eq_comm]
  · simp [string_iff]
  · rename_i no_string no_array
    simp only [List.not_mem_nil, false_iff, not_or, not_exists, not_and]
    exact ⟨no_string audience, fun elements there => absurd there (no_array elements)⟩

theorem checkAudience_eq_ok_iff {expected : String} {payload : Members} :
    checkAudience expected payload = .ok () ↔
      expected ∈ audiencesOf (Table.get? payload "aud") := by
  unfold checkAudience
  split <;> rename_i there <;> simp_all

/-! ### The key -/

theorem checkKey_eq_ok_iff {check : SignatureCheck} {t : Token} {a : SigningAlgorithm}
    {answer : KeyAnswer} :
    Validator.checkKey check t a answer = .ok () ↔
      ∃ entry, answer = .found entry ∧ entry.algorithm = a ∧ t.verifies check entry = true := by
  cases answer with
  | found entry =>
    simp only [Validator.checkKey, KeyAnswer.found.injEq, exists_eq_left']
    split
    · rename_i other
      simp [other]
    · rename_i same
      split <;> rename_i holds <;> simp_all
  | absent => simp [Validator.checkKey]
  | unavailable cause => simp [Validator.checkKey]
  | broken why => simp [Validator.checkKey]

/-! ### The plan -/

/-- **The tokens of which the key is needed:** those that name an accepted algorithm and a key id. -/
structure Token.Eligible (v : Validator) (t : Token) (a : SigningAlgorithm) (keyId : String) : Prop where
  named : a.name = t.algorithm
  accepted : a ∈ v.algorithms
  keyId_there : Table.get? t.header "kid" = some (.string keyId)
  keyId_ne : keyId ≠ ""

/-- What becomes of an eligible token once the search for its key has been answered. -/
def Validator.resumption (v : Validator) (check : SignatureCheck) (t : Token) (a : SigningAlgorithm)
    (answer : KeyAnswer) (now : Number) : Validation :=
  match checkKey check t a answer with
  | .error failure => ⟨[.form], .error failure⟩
  | .ok () => v.checkClaims now t

namespace Validator

/-- **When a key is asked for, and what follows.** -/
theorem plan_eq_needsKey_iff {v : Validator} {check : SignatureCheck} {raw keyId : String}
    {resume : KeyAnswer → Number → Validation} :
    v.plan check raw = .needsKey keyId resume ↔
      ∃ t a, Token.Written raw t ∧ Token.Eligible v t a keyId ∧ resume = v.resumption check t a := by
  constructor
  · intro planned
    unfold plan at planned
    split at planned
    · cases planned
    · rename_i t read
      split at planned
      · cases planned
      · rename_i a named
        split at planned
        · rename_i accepted
          split at planned
          · cases planned
          · rename_i kid found
            obtain ⟨keyId_eq, keyId_ne⟩ := Token.keyId?_eq_some_iff.1 found
            cases planned
            refine ⟨t, a, Token.ofText_eq_ok_iff.1 read, ?_, rfl⟩
            exact
              { named := SigningAlgorithm.ofName?_eq_some_iff.1 named
                accepted := by simpa using accepted
                keyId_there := keyId_eq
                keyId_ne }
        · cases planned
  · rintro ⟨t, a, written, eligible, rfl⟩
    have read := Token.ofText_eq_ok_iff.2 written
    have named := SigningAlgorithm.ofName?_eq_some_iff.2 eligible.named
    have found := Token.keyId?_eq_some_iff.2 ⟨eligible.keyId_there, eligible.keyId_ne⟩
    have accepted : v.algorithms.contains a = true := by simpa using eligible.accepted
    simp only [plan, read, named, accepted, found, if_true]
    rfl

/-- A validation that is settled without a key is a rejection. -/
theorem reject_of_plan_eq_settled {v : Validator} {check : SignatureCheck} {raw : String} {r : Validation}
    (planned : v.plan check raw = .settled r) : ∃ passed cause, r = .reject passed cause := by
  unfold plan at planned
  split at planned
  · cases planned
    exact ⟨_, _, rfl⟩
  · split at planned
    · cases planned
      exact ⟨_, _, rfl⟩
    · split at planned
      · split at planned
        · cases planned
          exact ⟨_, _, rfl⟩
        · cases planned
      · cases planned
        exact ⟨_, _, rfl⟩

/-- So it never ends with claims. -/
theorem settled_result_ne_ok {v : Validator} {check : SignatureCheck} {raw : String} {r : Validation}
    (planned : v.plan check raw = .settled r) (claims : Claims) : r.result ≠ .ok claims := by
  obtain ⟨passed, cause, rfl⟩ := reject_of_plan_eq_settled planned
  simp [Validation.reject]

end Validator

/-- **What has to hold of a token,** of the key that was found under its key id, and of the time, so that
a validator accepts it. -/
structure Token.Accepted (v : Validator) (check : SignatureCheck) (t : Token) (keyId : String)
    (entry : KeyEntry) (now : Number) : Prop extends
    Token.Eligible v t entry.algorithm keyId where
  signature : t.verifies check entry = true
  expiry : ∃ exp, Table.get? t.payload "exp" = some (.number exp) ∧ now.divNat 1000 < exp + v.tolerance
  notBefore : ∀ nbf, Table.get? t.payload "nbf" = some (.number nbf) →
    ¬now.divNat 1000 < nbf - v.tolerance
  issuer : Table.get? t.payload "iss" = some (.string v.issuer)
  audience : Table.get? t.payload "aud" = some (.string v.audience) ∨
    ∃ elements, Table.get? t.payload "aud" = some (.array elements) ∧ Json.string v.audience ∈ elements

namespace Validator

/-- The checks that follow the signature pass if all three of them do. -/
theorem checkClaims_eq_ok_iff {v : Validator} {now : Number} {t : Token} {claims : Claims} :
    (v.checkClaims now t).result = .ok claims ↔
      checkTimes v.tolerance now t.payload = .ok () ∧ checkIssuer v.issuer t.payload = .ok () ∧
        checkAudience v.audience t.payload = .ok () ∧ claims = t.claims := by
  unfold checkClaims
  split
  · rename_i cause late
    simp [Validation.reject, late]
  · rename_i in_time
    split
    · rename_i cause foreign
      simp [Validation.reject, foreign]
    · rename_i own
      split
      · rename_i cause elsewhere
        simp [Validation.reject, elsewhere]
      · rename_i here
        simp [in_time, own, here, eq_comm]

/-- **How the validation of an eligible token ends with claims.** -/
theorem resumption_eq_ok_iff {v : Validator} {check : SignatureCheck} {t : Token}
    {a : SigningAlgorithm} {keyId : String} (eligible : Token.Eligible v t a keyId)
    {answer : KeyAnswer} {now : Number} {claims : Claims} :
    (v.resumption check t a answer now).result = .ok claims ↔
      ∃ entry, answer = .found entry ∧ Token.Accepted v check t keyId entry now ∧
        claims = t.claims := by
  unfold resumption
  constructor
  · intro ended
    split at ended
    · cases ended
    · rename_i key_holds
      obtain ⟨entry, found, rfl, signature⟩ := checkKey_eq_ok_iff.1 key_holds
      obtain ⟨times, own, here, claims_eq⟩ := checkClaims_eq_ok_iff.1 ended
      obtain ⟨expiry, notBefore⟩ := checkTimes_eq_ok_iff.1 times
      refine ⟨entry, found, ?_, claims_eq⟩
      exact
        { eligible with
          signature, expiry, notBefore
          issuer := checkIssuer_eq_ok_iff.1 own
          audience := mem_audiencesOf_iff.1 (checkAudience_eq_ok_iff.1 here) }
  · rintro ⟨entry, found, accepted, claims_eq⟩
    -- The token names one algorithm, and names tell algorithms apart.
    have same : entry.algorithm = a :=
      SigningAlgorithm.name_injective (accepted.named.trans eligible.named.symm)
    have key_holds := checkKey_eq_ok_iff.2 ⟨entry, found, same, accepted.signature⟩
    rw [key_holds]
    exact checkClaims_eq_ok_iff.2
      ⟨checkTimes_eq_ok_iff.2 ⟨accepted.expiry, accepted.notBefore⟩,
        checkIssuer_eq_ok_iff.2 accepted.issuer,
        checkAudience_eq_ok_iff.2 (mem_audiencesOf_iff.2 accepted.audience), claims_eq⟩

/-- **A validation breaks down** only if the search for the key did. -/
theorem broken_of_resumption {v : Validator} {check : SignatureCheck} {t : Token} {a : SigningAlgorithm}
    {answer : KeyAnswer} {now : Number} {why : String}
    (broke : (v.resumption check t a answer now).result = .error (.broken why)) : answer = .broken why := by
  unfold resumption at broke
  split at broke
  · rename_i failure key_fails
    cases broke
    unfold checkKey at key_fails
    split at key_fails
    · cases key_fails
      rfl
    · cases key_fails
    · cases key_fails
    · split at key_fails
      · cases key_fails
      · split at key_fails <;> cases key_fails
  · unfold checkClaims at broke
    split at broke
    · cases broke
    · split at broke
      · cases broke
      · split at broke <;> cases broke

end Validator

end BearerGate
