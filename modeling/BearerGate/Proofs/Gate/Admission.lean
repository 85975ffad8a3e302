import Mathlib
import BearerGate.Gate.Basic
import BearerGate.Proofs.Json.Equality
import BearerGate.Proofs.Token.Acceptance

/-!
# Whom the gate lets pass

`Gate.run` spelled out, in whatever monad the search for keys and the clock live: it is settled at once,
or it searches for one key, reads the clock once and concludes.  `Gate.run_authorizes_iff` puts this
together with what is known of validation: the gate authorizes a request exactly if its token is written
as tokens are, is accepted under the key that is found for it at that time, and speaks for someone who has
one of the roles that are asked for.
-/

namespace BearerGate

/-- **Roles meet a requirement** that is empty or names one of them. -/
theorem Requirement.allows_iff {r : Requirement} {roles : List String} :
    r.allows roles = true ↔ r.roles = [] ∨ ∃ role ∈ r.roles, role ∈ roles := by
  simp [allows]

namespace Gate

/-! ### The gate spelled out -/

section Spelled

variable {m : Type → Type} [Monad m] [LawfulMonad m] (g : Gate) (lookup : String → m KeyAnswer)
  (now : m Number) (context : RequestContext) (requirement : Requirement)

omit [LawfulMonad m] in
/-- Without a token there is nothing to search for. -/
theorem run_of_no_token (absent : context.token = none ∨ context.token = some "") :
    g.run lookup now context requirement = pure (.rejected .noToken .received, context) := by
  rcases absent with absent | absent <;> simp [run, absent]

/-- A token that is settled without a key is concluded at once. -/
theorem run_of_settled {raw : String} (there : context.token = some raw) (filled : raw ≠ "")
    {r : Validation} (planned : g.validator.plan g.check raw = .settled r) :
    g.run lookup now context requirement = pure (g.conclude context requirement r) := by
  simp [run, there, filled, Validator.validate, planned]

/-- For any other token the gate searches for one key, reads the clock and concludes. -/
theorem run_of_needsKey {raw : String} (there : context.token = some raw) (filled : raw ≠ "")
    {keyId : String} {resume : KeyAnswer → Number → Validation}
    (planned : g.validator.plan g.check raw = .needsKey keyId resume) :
    g.run lookup now context requirement = (do
      let answer ← lookup keyId
      let time ← now
      pure (g.conclude context requirement (resume answer time))) := by
  simp [run, there, filled, Validator.validate, planned]

end Spelled

/-- A text that stands for a token is not empty. -/
theorem ne_empty_of_written {raw : String} {t : Token} (written : Token.Written raw t) : raw ≠ "" := by
  obtain ⟨h, p, s, joined, filled, -⟩ := written.segments
  rintro rfl
  have empty : h = "" := by
    have chars := congrArg String.toList joined
    simp at chars
  exact filled.1 empty

/-- **A conclusion authorizes** exactly if the validation ended with claims whose principal meets the
requirement. -/
theorem conclude_authorized_iff {g : Gate} {context : RequestContext} {requirement : Requirement}
    {v : Validation} {claims : Claims} {caller : Principal} :
    (g.conclude context requirement v).1 = .authorized claims caller ↔
      v.result = .ok claims ∧ caller = claims.principal g.rolesSetting ∧
        requirement.allows caller.roles = true := by
  unfold conclude
  split
  · rename_i cause ended
    simp [ended]
  · rename_i why ended
    simp [ended]
  · rename_i claims' ended
    simp only [ended, Except.ok.injEq]
    split
    · rename_i allowed
      simp only [Decision.authorized.injEq]
      constructor
      · rintro ⟨rfl, rfl⟩
        exact ⟨rfl, rfl, allowed⟩
      · rintro ⟨rfl, rfl, -⟩
        exact ⟨rfl, rfl⟩
    · rename_i refused
      simp only [reduceCtorEq, false_iff]
      rintro ⟨rfl, rfl, allowed⟩
      exact refused allowed

/-- **Who is authorized after the search for a key** has a token that is accepted under the key that was
found. -/
theorem accepted_of_conclude {g : Gate} {context : RequestContext} {requirement : Requirement}
    {raw keyId : String} {resume : KeyAnswer → Number → Validation} {answer : KeyAnswer} {now : Number}
    {claims : Claims} {caller : Principal} (planned : g.validator.plan g.check raw = .needsKey keyId resume)
    (authorized : (g.conclude context requirement (resume answer now)).1 = .authorized claims caller) :
    ∃ t entry, Token.Written raw t ∧ answer = .found entry ∧
      Token.Accepted g.validator g.check t keyId entry now ∧
      caller = t.claims.principal g.rolesSetting ∧ requirement.allows caller.roles = true := by
  obtain ⟨ended, rfl, allowed⟩ := conclude_authorized_iff.1 authorized
  obtain ⟨t, a, written, eligible, rfl⟩ := Validator.plan_eq_needsKey_iff.1 planned
  obtain ⟨entry, found, accepted, rfl⟩ := (Validator.resumption_eq_ok_iff eligible).1 ended
  exact ⟨t, entry, written, found, accepted, rfl, allowed⟩

/-- **The gate authorizes exactly the requests that it should.**  `lookup` and `clock` may have effects
on a world; the time that counts is the one after the search for the key. -/
theorem run_authorizes_iff {σ : Type} (issuer audience : String) (algorithms : List SigningAlgorithm)
    (tolerance : Number) (check : SignatureCheck) (rolesSetting : String) (requirement : Requirement)
    (context : RequestContext) (lookup : String → StateM σ KeyAnswer) (clock : StateM σ Number)
    (world : σ) (issuer_filled : Text.trim issuer ≠ "") (audience_filled : Text.trim audience ≠ "") :
    ∃ v : Validator, Validator.make issuer audience algorithms tolerance = .ok v ∧
      ((∃ claims caller, (Gate.run ⟨v, check, rolesSetting⟩ lookup clock context requirement world).1.1 =
          .authorized claims caller) ↔
        ∃ raw t keyId entry after,
          context.token = some raw ∧ Token.Written raw t ∧
          lookup keyId world = (.found entry, after) ∧
          Token.Accepted ⟨issuer, audience, algorithms, tolerance⟩ check t keyId entry (clock after).1 ∧
          (requirement.roles = [] ∨
            ∃ role ∈ requirement.roles, role ∈ resolveRoles (.object t.payload) (rolePaths rolesSetting))) := by
  refine ⟨⟨issuer, audience, algorithms, tolerance⟩, ?_, ?_⟩
  · simp [Validator.make, issuer_filled, audience_filled]
  generalize validator_eq : (⟨issuer, audience, algorithms, tolerance⟩ : Validator) = v
  constructor
  -- The gate ends in three ways: without a token, without a key, or after both were read.
  · rintro ⟨claims, caller, authorized⟩
    cases there : context.token with
    | none =>
      rw [run_of_no_token _ _ _ _ _ (.inl there)] at authorized
      cases authorized
    | some raw =>
      by_cases filled : raw = ""
      · rw [run_of_no_token _ _ _ _ _ (.inr (by rw [there, filled]))] at authorized
        cases authorized
      cases planned : v.plan check raw with
      | settled r =>
        rw [run_of_settled _ _ _ _ _ there filled planned] at authorized
        have ended := (conclude_authorized_iff.1 authorized).1
        exact absurd ended (Validator.settled_result_ne_ok planned claims)
      | needsKey keyId resume =>
        rw [run_of_needsKey _ _ _ _ _ there filled planned] at authorized
        obtain ⟨t, entry, written, found, accepted, rfl, allowed⟩ :=
          accepted_of_conclude planned authorized
        exact ⟨raw, t, keyId, entry, (lookup keyId world).2, rfl, written, Prod.ext found rfl, accepted,
          Requirement.allows_iff.1 allowed⟩
  -- What is required makes the plan ask for the key, and then nothing is in the way.
  · rintro ⟨raw, t, keyId, entry, after, there, written, found, accepted, allowed⟩
    have planned : v.plan check raw = .needsKey keyId (v.resumption check t entry.algorithm) :=
      Validator.plan_eq_needsKey_iff.2 ⟨t, entry.algorithm, written, accepted.toEligible, rfl⟩
    refine ⟨t.claims, t.claims.principal rolesSetting, ?_⟩
    rw [run_of_needsKey _ _ _ _ _ there (ne_empty_of_written written) planned]
    refine conclude_authorized_iff.2 ⟨?_, rfl, Requirement.allows_iff.2 allowed⟩
    refine (Validator.resumption_eq_ok_iff accepted.toEligible).2 ⟨entry, ?_, ?_, rfl⟩
    · rw [found]
    · rw [found]
      exact accepted

/-- The token of an administrator that never expires, signed with three bytes. -/
private def passport : Token where
  raw := "eyJhbGciOiJSUzI1NiIsImtpZCI6ImsifQ" ++ "." ++
    "eyJzdWIiOiJzIiwiaXNzIjoiaSIsImF1ZCI6WyJhIl0sImV4cCI6MWU5OTksInJvbGVzIjpbImFkbWluIl19" ++ "." ++ "AQID"
  header := [("alg", .string "RS256"), ("kid", .string "k")]
  payload := [("sub", .string "s"), ("iss", .string "i"), ("aud", .array [.string "a"]),
    ("exp", .number (.infinite false)), ("roles", .array [.string "admin"])]
  algorithm := "RS256"
  subject := "s"

/-- The check that holds of those three bytes and of no other signature. -/
private def threeBytes : SignatureCheck := fun _ _ _ signature => signature = [1, 2, 3]

/-- The one key that an issuer publishes. -/
private def onlyKey : KeyEntry := ⟨"k", .rsa ⟨33, 3⟩, .rs256⟩

private def onlyKeyUnder (keyId : String) : StateM Unit KeyAnswer :=
  pure (if keyId = "k" then .found onlyKey else .absent)

private theorem passport_cut :
    Token.segments? passport.raw = some ("eyJhbGciOiJSUzI1NiIsImtpZCI6ImsifQ",
      "eyJzdWIiOiJzIiwiaXNzIjoiaSIsImF1ZCI6WyJhIl0sImV4cCI6MWU5OTksInJvbGVzIjpbImFkbWluIl19", "AQID") :=
  Token.segments?_eq_some_iff.2 ⟨rfl, by decide, by decide, by decide⟩

private theorem passport_written : Token.Written passport.raw passport where
  same_text := rfl
  segments := by
    obtain ⟨joined, hh, hp, hs⟩ := Token.segments?_eq_some_iff.1 passport_cut
    exact ⟨_, _, _, joined, hh, hp, hs, by decide +kernel, by decide +kernel⟩
  algorithm := rfl
  subject := rfl
  subject_ne := by decide

/-- The gate lets an administrator pass to where administrators are asked for. -/
theorem run_authorizes_administrator :
    Text.trim "i" ≠ "" ∧ Text.trim "a" ≠ "" ∧
      ∃ v : Validator, Validator.make "i" "a" [.rs256] 0 = .ok v ∧
        ∃ claims caller,
          (Gate.run ⟨v, threeBytes, "roles"⟩ onlyKeyUnder (pure 1000)
            { requestId := "r", token := some passport.raw } ⟨["admin"]⟩ ()).1.1 =
              .authorized claims caller := by
  refine ⟨by decide, by decide, ?_⟩
  obtain ⟨v, made, authorizes_iff⟩ := run_authorizes_iff "i" "a" [.rs256] 0 threeBytes "roles" ⟨["admin"]⟩
    { requestId := "r", token := some passport.raw } onlyKeyUnder (pure 1000) () (by decide) (by decide)
  refine ⟨v, made, authorizes_iff.2 ?_⟩
  have no_start : Table.get? passport.payload "nbf" = none := rfl
  have accepted : Token.Accepted ⟨"i", "a", [.rs256], 0⟩ threeBytes passport "k" onlyKey 1000 :=
    { named := rfl
      accepted := by decide
      keyId_there := rfl
      keyId_ne := by decide
      signature := by
        simp only [Token.verifies, Token.signedParts, passport_cut]
        decide
      expiry := ⟨.infinite false, rfl, by decide +kernel⟩
      notBefore := by
        intro nbf there
        rw [no_start] at there
        cases there
      issuer := rfl
      audience := .inr ⟨[.string "a"], rfl, by simp⟩ }
  exact ⟨passport.raw, passport, "k", onlyKey, (), rfl, passport_written, rfl, accepted,
    .inr ⟨"admin", by simp, by decide⟩⟩

end Gate

end BearerGate
