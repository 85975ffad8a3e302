import Mathlib
import BearerGate.Proofs.Gate.Admission

/-!
# How far a request gets at the gate

The gate as a machine that goes from stage to stage.  `Check.Holds` says of each check what it asks, without
the functions that make it, and `Check.Blames` which failure is told where it does not hold.  A validation
then takes its **course** (`Course`): it passes checks in their order as long as they hold, stops at the
first one that does not, whatever else would not hold after that, and blames that one.

`Gate.run_stages` puts the gate on top: a rejection comes with the stage before the check that is blamed, and
the context shows claims and a principal exactly if the whole course was passed.
-/

namespace BearerGate

/-- **The checks in their order.** -/
def Check.inOrder : List Check := [.form, .signature, .expiry, .issuer, .audience]

/-- The checks before one of them are those up to it. -/
theorem Check.before_eq {before rest : List Check} {c : Check} (order : inOrder = before ++ c :: rest) :
    before = inOrder.takeWhile (· ≠ c) := by
  have distinct : inOrder.Nodup := by decide
  have apart : ∀ d ∈ before, d ≠ c := by
    rw [order] at distinct
    intro d member
    exact (List.nodup_append.1 distinct).2.2 d member c List.mem_cons_self
  rw [order, List.takeWhile_append_of_pos (by simpa using apart), List.takeWhile_cons_of_neg (by simp),
    List.append_nil]

/-! ### What the checks ask -/

/-- **A key id is wanted for a text:** the text is a token that names it together with an accepted
algorithm. -/
def Token.Wanted (v : Validator) (raw keyId : String) : Prop :=
  ∃ t a, Token.Written raw t ∧ Token.Eligible v t a keyId

/-- A text stands for one token only. -/
theorem Token.Written.unique {raw : String} {t u : Token} (first : Token.Written raw t)
    (second : Token.Written raw u) : t = u := by
  have read := Token.ofText_eq_ok_iff.2 first
  rw [Token.ofText_eq_ok_iff.2 second] at read
  cases read
  rfl

/-- **Answers that a search for keys can have:** where keys are missing, that is the reason. -/
def KeyAnswer.Proper (answer : KeyAnswer) : Prop :=
  ∀ cause, answer = .unavailable cause → cause.reason = .keySetUnavailable

section Asked

variable (v : Validator) (check : SignatureCheck) (raw : String) (answer : KeyAnswer) (now : Number)

/-- A token whose time is not over. -/
def Token.Unexpired (t : Token) : Prop :=
  ∃ exp, Table.get? t.payload "exp" = some (.number exp) ∧ now.divNat 1000 < exp + v.tolerance

/-- **What a check asks of a text,** given the answer to the search for its key and the time. -/
def Check.Holds : Check → Prop
  | .form => ∃ t, Token.Written raw t
  | .signature => ∃ t keyId entry, Token.Written raw t ∧ answer = .found entry ∧
      Token.Eligible v t entry.algorithm keyId ∧ t.verifies check entry = true
  | .expiry => ∃ t, Token.Written raw t ∧ t.Unexpired v now ∧
      ∀ nbf, Table.get? t.payload "nbf" = some (.number nbf) → ¬now.divNat 1000 < nbf - v.tolerance
  | .issuer => ∃ t, Token.Written raw t ∧ Table.get? t.payload "iss" = some (.string v.issuer)
  | .audience => ∃ t, Token.Written raw t ∧ (Table.get? t.payload "aud" = some (.string v.audience) ∨
      ∃ elements, Table.get? t.payload "aud" = some (.array elements) ∧ Json.string v.audience ∈ elements)

/-- **The failure that a check is blamed with.**  Where no key could be had at all, that is told in place of a
bad signature, and a token whose time is over is not told that its time has yet to come. -/
inductive Check.Blames : Check → Failure → Prop
  | malformed {cause : Rejection} (reason : cause.reason = .malformed) : Blames .form (.rejected cause)
  | unsigned {cause : Rejection} (reason : cause.reason = .signatureInvalid)
      (answered : ∀ keyId, Token.Wanted v raw keyId → answer = .absent ∨ ∃ entry, answer = .found entry) :
    Blames .signature (.rejected cause)
  | unavailable {cause : Rejection} {keyId : String} (reason : cause.reason = .keySetUnavailable)
      (wanted : Token.Wanted v raw keyId) (missing : answer = .unavailable cause) :
    Blames .signature (.rejected cause)
  | broken {why keyId : String} (wanted : Token.Wanted v raw keyId) (broke : answer = .broken why) :
    Blames .signature (.broken why)
  | expired {t : Token} {cause : Rejection} (reason : cause.reason = .expired) (written : Token.Written raw t)
      (ended : ¬t.Unexpired v now) : Blames .expiry (.rejected cause)
  | notYetValid {t : Token} {cause : Rejection} (reason : cause.reason = .notYetValid)
      (written : Token.Written raw t) (young : t.Unexpired v now) : Blames .expiry (.rejected cause)
  | issuer {cause : Rejection} (reason : cause.reason = .issuerMismatch) : Blames .issuer (.rejected cause)
  | audience {cause : Rejection} (reason : cause.reason = .audienceMismatch) : Blames .audience (.rejected cause)

/-- **The course of a validation.** -/
structure Course (r : Validation) : Prop where
  /-- Checks are passed in their order, -/
  ordered : r.passed <+: Check.inOrder
  /-- all of those that are passed hold, -/
  held : ∀ c ∈ r.passed, c.Holds v check raw answer now
  /-- the next one does not, -/
  stopped : ∀ c rest, Check.inOrder = r.passed ++ c :: rest → ¬c.Holds v check raw answer now
  /-- there are claims exactly if there is no next one, -/
  complete : r.passed = Check.inOrder ↔ ∃ claims, r.result = .ok claims
  /-- and a failure is blamed on the next one. -/
  blamed : ∀ failure, r.result = .error failure →
    ∃ c rest, Check.inOrder = r.passed ++ c :: rest ∧ c.Blames v raw answer now failure

end Asked

/-! ### The course of every validation -/

section Courses

variable {v : Validator} {check : SignatureCheck} {raw : String} {answer : KeyAnswer} {now : Number}

/-- **Stopping at a check:** those before it hold, and it is blamed. -/
theorem Course.of_stop {before after : List Check} {c : Check} {failure : Failure}
    (order : Check.inOrder = before ++ c :: after) (held : ∀ b ∈ before, b.Holds v check raw answer now)
    (fails : ¬c.Holds v check raw answer now) (blames : c.Blames v raw answer now failure) :
    Course v check raw answer now ⟨before, .error failure⟩ where
  ordered := ⟨c :: after, order.symm⟩
  held := held
  stopped := by
    intro c' rest order'
    have same := List.append_cancel_left (order.symm.trans order')
    cases same
    exact fails
  complete := by
    constructor
    · intro whole
      have none_left : before ++ c :: after = before := order.symm.trans whole.symm
      simp at none_left
    · rintro ⟨claims, ended⟩
      cases ended
  blamed := by
    intro failure' ended
    cases ended
    exact ⟨c, after, order, blames⟩

/-- Passing all checks. -/
theorem Course.of_all {claims : Claims} (held : ∀ c ∈ Check.inOrder, c.Holds v check raw answer now) :
    Course v check raw answer now ⟨Check.inOrder, .ok claims⟩ where
  ordered := List.prefix_refl _
  held := held
  stopped := by
    intro c rest order
    simp at order
  complete := ⟨fun _ => ⟨claims, rfl⟩, fun _ => rfl⟩
  blamed := by
    intro failure ended
    cases ended

/-- A check of the times that fails tells whether the time is over or has yet to come. -/
theorem blames_of_checkTimes {t : Token} {cause : Rejection} (written : Token.Written raw t)
    (fails : checkTimes v.tolerance now t.payload = .error cause) :
    Check.expiry.Blames v raw answer now (.rejected cause) := by
  unfold checkTimes at fails
  dsimp only at fails
  split at fails
  · rename_i exp exp_eq
    split at fails
    · rename_i young
      split at fails
      · split at fails
        · cases fails
          exact .notYetValid rfl written ⟨exp, exp_eq, young⟩
        · cases fails
      · cases fails
    · rename_i old
      cases fails
      refine .expired rfl written ?_
      rintro ⟨exp', exp_eq', young⟩
      rw [exp_eq] at exp_eq'
      cases exp_eq'
      exact old young
  · rename_i no_number
    cases fails
    refine .expired rfl written ?_
    rintro ⟨exp, exp_eq, -⟩
    exact no_number exp exp_eq

theorem reason_of_checkIssuer {expected : String} {payload : Members} {cause : Rejection}
    (fails : checkIssuer expected payload = .error cause) : cause.reason = .issuerMismatch := by
  unfold checkIssuer at fails
  split at fails
  · split at fails
    · cases fails
    · cases fails
      rfl
  · cases fails
    rfl

theorem reason_of_checkAudience {expected : String} {payload : Members} {cause : Rejection}
    (fails : checkAudience expected payload = .error cause) : cause.reason = .audienceMismatch := by
  unfold checkAudience at fails
  split at fails
  · cases fails
  · cases fails
    rfl

/-- **The course after a signature that holds.** -/
theorem course_checkClaims {t : Token} (written : Token.Written raw t)
    (signed : Check.signature.Holds v check raw answer now) :
    Course v check raw answer now (v.checkClaims now t) := by
  have form : Check.form.Holds v check raw answer now := ⟨t, written⟩
  unfold Validator.checkClaims
  split
  · rename_i cause fails
    refine .of_stop (c := .expiry) rfl ?_ ?_ (blames_of_checkTimes written fails)
    · simpa using ⟨form, signed⟩
    · rintro ⟨u, written', young, late⟩
      obtain rfl := written.unique written'
      rw [checkTimes_eq_ok_iff.2 ⟨young, late⟩] at fails
      cases fails
  rename_i in_time
  obtain ⟨young, late⟩ := checkTimes_eq_ok_iff.1 in_time
  have expiry : Check.expiry.Holds v check raw answer now := ⟨t, written, young, late⟩
  split
  · rename_i cause fails
    refine .of_stop (c := .issuer) rfl ?_ ?_ (.issuer (reason_of_checkIssuer fails))
    · simpa using ⟨form, signed, expiry⟩
    · rintro ⟨u, written', own⟩
      obtain rfl := written.unique written'
      rw [checkIssuer_eq_ok_iff.2 own] at fails
      cases fails
  rename_i own
  have issuer : Check.issuer.Holds v check raw answer now := ⟨t, written, checkIssuer_eq_ok_iff.1 own⟩
  split
  · rename_i cause fails
    refine .of_stop (c := .audience) rfl ?_ ?_ (.audience (reason_of_checkAudience fails))
    · simpa using ⟨form, signed, expiry, issuer⟩
    · rintro ⟨u, written', here⟩
      obtain rfl := written.unique written'
      rw [checkAudience_eq_ok_iff.2 (mem_audiencesOf_iff.2 here)] at fails
      cases fails
  · rename_i here
    have audience : Check.audience.Holds v check raw answer now :=
      ⟨t, written, mem_audiencesOf_iff.1 (checkAudience_eq_ok_iff.1 here)⟩
    exact .of_all (by simpa [Check.inOrder] using ⟨form, signed, expiry, issuer, audience⟩)

/-- A key that does not do is blamed on the signature. -/
theorem blames_of_checkKey {t : Token} {a : SigningAlgorithm} {keyId : String} {failure : Failure}
    (written : Token.Written raw t) (eligible : Token.Eligible v t a keyId) (proper : answer.Proper)
    (fails : Validator.checkKey check t a answer = .error failure) :
    Check.signature.Blames v raw answer now failure := by
  have wanted : Token.Wanted v raw keyId := ⟨t, a, written, eligible⟩
  cases answer with
  | broken why =>
    cases fails
    exact .broken wanted rfl
  | unavailable cause =>
    cases fails
    exact .unavailable (proper cause rfl) wanted rfl
  | absent =>
    cases fails
    exact .unsigned rfl fun _ _ => .inl rfl
  | found entry =>
    have answered : ∀ keyId, Token.Wanted v raw keyId →
        KeyAnswer.found entry = .absent ∨ ∃ entry', KeyAnswer.found entry = .found entry' :=
      fun _ _ => .inr ⟨entry, rfl⟩
    simp only [Validator.checkKey] at fails
    split at fails
    · cases fails
      exact .unsigned rfl answered
    · split at fails
      · cases fails
      · cases fails
        exact .unsigned rfl answered

/-- **The course once the search for the key is answered.** -/
theorem course_resumption {t : Token} {a : SigningAlgorithm} {keyId : String} (written : Token.Written raw t)
    (eligible : Token.Eligible v t a keyId) (proper : answer.Proper) :
    Course v check raw answer now (v.resumption check t a answer now) := by
  unfold Validator.resumption
  split
  · rename_i failure fails
    refine .of_stop (c := .signature) rfl ?_ ?_ (blames_of_checkKey written eligible proper fails)
    · intro c member
      rw [List.mem_singleton.1 member]
      exact ⟨t, written⟩
    · rintro ⟨u, keyId', entry, written', found, eligible', verified⟩
      obtain rfl := written.unique written'
      have same : entry.algorithm = a :=
        SigningAlgorithm.name_injective (eligible'.named.trans eligible.named.symm)
      rw [checkKey_eq_ok_iff.2 ⟨entry, found, same, verified⟩] at fails
      cases fails
  · rename_i holds
    obtain ⟨entry, found, rfl, verified⟩ := checkKey_eq_ok_iff.1 holds
    exact course_checkClaims written ⟨t, keyId, entry, written, found, eligible, verified⟩

theorem reason_of_ofText {cause : Rejection} (fails : Token.ofText raw = .error cause) :
    cause.reason = .malformed := by
  unfold Token.ofText at fails
  split at fails
  · cases fails
    rfl
  · split at fails
    · split at fails
      · cases fails
        rfl
      · split at fails
        · cases fails
          rfl
        · split at fails
          · cases fails
            rfl
          · cases fails
    · cases fails
      rfl

/-- **The course of a text for which no key is wanted.** -/
theorem course_of_settled {r : Validation} (planned : v.plan check raw = .settled r) :
    Course v check raw answer now r ∧ ∀ keyId, ¬Token.Wanted v raw keyId := by
  have unwanted : ∀ keyId, ¬Token.Wanted v raw keyId := by
    rintro keyId ⟨t, a, written, eligible⟩
    rw [Validator.plan_eq_needsKey_iff.2 ⟨t, a, written, eligible, rfl⟩] at planned
    cases planned
  refine ⟨?_, unwanted⟩
  have unsigned : ¬Check.signature.Holds v check raw answer now := by
    rintro ⟨t, keyId, entry, written, -, eligible, -⟩
    exact unwanted keyId ⟨t, _, written, eligible⟩
  have blames : ∀ {cause : Rejection}, cause.reason = .signatureInvalid →
      Check.signature.Blames v raw answer now (.rejected cause) :=
    fun reason => .unsigned reason fun keyId wanted => absurd wanted (unwanted keyId)
  unfold Validator.plan at planned
  split at planned
  · rename_i cause fails
    cases planned
    have first : Check.inOrder = [] ++ .form :: Check.inOrder.tail := rfl
    refine .of_stop first (by simp) ?_ (.malformed (reason_of_ofText fails))
    rintro ⟨t, written⟩
    rw [Token.ofText_eq_ok_iff.2 written] at fails
    cases fails
  rename_i t read
  have form : ∀ c ∈ [Check.form], c.Holds v check raw answer now := by
    intro c member
    rw [List.mem_singleton.1 member]
    exact ⟨t, Token.ofText_eq_ok_iff.1 read⟩
  have second : Check.inOrder = [.form] ++ .signature :: Check.inOrder.tail.tail := rfl
  split at planned
  · cases planned
    exact .of_stop second form unsigned (blames rfl)
  · split at planned
    · split at planned
      · cases planned
        exact .of_stop second form unsigned (blames rfl)
      · cases planned
    · cases planned
      exact .of_stop second form unsigned (blames rfl)

/-- **Every validation takes its course,** on the answer and the time that it was given if it asked for
them. -/
theorem course_validate {σ : Type} (v : Validator) (check : SignatureCheck) (lookup : String → StateM σ KeyAnswer)
    (clock : StateM σ Number) (world : σ) (raw : String) (proper : ∀ keyId w, (lookup keyId w).1.Proper) :
    ∃ answer now,
      (∀ keyId, Token.Wanted v raw keyId →
        answer = (lookup keyId world).1 ∧ now = (clock (lookup keyId world).2).1) ∧
      Course v check raw answer now (v.validate check lookup clock raw world).1 := by
  cases planned : v.plan check raw with
  | settled r =>
    have validated : (v.validate check lookup clock raw world).1 = r := by
      simp only [Validator.validate, planned]
      rfl
    obtain ⟨course, unwanted⟩ : Course v check raw .absent 0 r ∧ ∀ keyId, ¬Token.Wanted v raw keyId :=
      course_of_settled planned
    rw [validated]
    exact ⟨.absent, 0, fun keyId wanted => absurd wanted (unwanted keyId), course⟩
  | needsKey keyId resume =>
    have validated : (v.validate check lookup clock raw world).1 =
        resume (lookup keyId world).1 (clock (lookup keyId world).2).1 := by
      simp only [Validator.validate, planned]
      rfl
    obtain ⟨t, a, written, eligible, rfl⟩ := Validator.plan_eq_needsKey_iff.1 planned
    rw [validated]
    refine ⟨_, _, ?_, course_resumption written eligible (proper keyId world)⟩
    rintro keyId' ⟨u, b, written', eligible'⟩
    obtain rfl := written.unique written'
    have there := eligible.keyId_there
    rw [eligible'.keyId_there] at there
    cases there
    exact ⟨rfl, rfl⟩

end Courses

/-! ### The gate -/

namespace Gate

/-- **The reports of the gate:** the reasons with the stages at which they come up. -/
def reports : List (Reason × Stage) :=
  [(.missingToken, .received), (.malformed, .received), (.signatureInvalid, .structurallyChecked),
    (.keySetUnavailable, .structurallyChecked), (.expired, .signatureChecked), (.notYetValid, .signatureChecked),
    (.issuerMismatch, .expiryChecked), (.audienceMismatch, .issuerChecked), (.insufficientRole, .claimsExtracted)]

/-- What is blamed on a check is reported with the stage before it. -/
theorem report_of_blames {v : Validator} {raw : String} {answer : KeyAnswer} {now : Number}
    {passed rest : List Check} {c : Check} {cause : Rejection} (order : Check.inOrder = passed ++ c :: rest)
    (blames : c.Blames v raw answer now (.rejected cause)) :
    (cause.reason, Stage.afterChecks passed) ∈ reports ∧ cause.reason ≠ .missingToken := by
  rw [Check.before_eq order]
  cases blames with
  | malformed reason => rw [reason]; decide
  | unsigned reason _ => rw [reason]; decide
  | unavailable reason _ _ => rw [reason]; decide
  | expired reason _ _ => rw [reason]; decide
  | notYetValid reason _ _ => rw [reason]; decide
  | issuer reason => rw [reason]; decide
  | audience reason => rw [reason]; decide

/-- **What a run of the gate comes to** for a request with a token, given the validation of that token. -/
structure Comes (g : Gate) (requirement : Requirement) (raw : String) (answer : KeyAnswer) (now : Number)
    (r : Validation) (run : Decision × RequestContext) : Prop where
  course : Course g.validator g.check raw answer now r
  /-- A rejection names the first check that fails and the stage before it, and leaves no claims; or all
  checks hold and a role is missing. -/
  rejected : ∀ cause last, run.1 = .rejected cause last →
    (∃ c rest, Check.inOrder = r.passed ++ c :: rest ∧ c.Blames g.validator raw answer now (.rejected cause) ∧
      last = Stage.afterChecks r.passed ∧ run.2.claims = none ∧ run.2.principal = none) ∨
    ∃ claims, r.result = .ok claims ∧ cause = .lacksRole ∧ last = .claimsExtracted ∧
      requirement.allows (claims.principal g.rolesSetting).roles = false ∧
      run.2.claims = some claims ∧ run.2.principal = some (claims.principal g.rolesSetting)
  authorized : ∀ claims caller, run.1 = .authorized claims caller →
    r.result = .ok claims ∧ caller = claims.principal g.rolesSetting ∧
      requirement.allows caller.roles = true ∧ run.2.claims = some claims ∧ run.2.principal = some caller
  /-- The gate breaks down exactly if the search for the key does. -/
  broken : ∀ why, run.1 = .broken why ↔ ∃ keyId, Token.Wanted g.validator raw keyId ∧ answer = .broken why
  unknown : ∀ why, run.1 = .broken why → run.2.claims = none ∧ run.2.principal = none

/-- A search that breaks down for a key that is wanted breaks the validation. -/
theorem broken_of_course {v : Validator} {check : SignatureCheck} {raw why keyId : String} {now : Number}
    {r : Validation} (course : Course v check raw (.broken why) now r) (wanted : Token.Wanted v raw keyId) :
    r.result = .error (.broken why) := by
  obtain ⟨t, a, written, eligible⟩ := wanted
  cases ended : r.result with
  | ok claims =>
    have whole := course.complete.2 ⟨claims, ended⟩
    obtain ⟨-, -, entry, -, found, -⟩ := course.held .signature (by rw [whole]; decide)
    cases found
  | error failure =>
    obtain ⟨c, rest, order, blames⟩ := course.blamed failure ended
    have fails := course.stopped c rest order
    have passed : ∀ d ∈ r.passed, d.Holds v check raw (.broken why) now := course.held
    cases blames with
    | malformed => exact absurd ⟨t, written⟩ fails
    | unsigned _ answered =>
      rcases answered keyId ⟨t, a, written, eligible⟩ with absent | ⟨entry, found⟩
      · cases absent
      · cases found
    | unavailable _ _ missing => cases missing
    | broken _ broke =>
      cases broke
      rfl
    | _ =>
      -- A later check is blamed only after the signature, and there is no key to hold it against.
      have signed : Check.signature ∈ r.passed := by
        rw [Check.before_eq order]
        decide
      obtain ⟨-, -, entry, -, found, -⟩ := passed .signature signed
      cases found

/-- **What a validation that took its course comes to at the gate.** -/
theorem comes_of_course {g : Gate} {context : RequestContext} {requirement : Requirement} {raw : String}
    {answer : KeyAnswer} {now : Number} {r : Validation}
    (course : Course g.validator g.check raw answer now r) (no_claims : context.claims = none)
    (no_principal : context.principal = none) :
    Comes g requirement raw answer now r (g.conclude context requirement r) := by
  have breaks : ∀ why, (g.conclude context requirement r).1 = .broken why ↔ r.result = .error (.broken why) := by
    intro why
    unfold conclude
    split
    · rename_i cause ended
      simp [ended]
    · rename_i why' ended
      simp [ended]
    · rename_i claims ended
      rw [ended]
      dsimp only
      split <;> simp
  refine ⟨course, ?rejected, ?authorized, ?broken, ?unknown⟩
  case rejected =>
    intro cause last rejected
    unfold conclude at rejected ⊢
    split at rejected
    · rename_i cause' ended
      cases rejected
      obtain ⟨c, rest, order, blames⟩ := course.blamed _ ended
      exact .inl ⟨c, rest, order, blames, rfl, no_claims, no_principal⟩
    · cases rejected
    · rename_i claims ended
      dsimp only at rejected
      split at rejected
      · cases rejected
      · rename_i refused
        cases rejected
        rw [if_neg refused]
        exact .inr ⟨claims, ended, rfl, rfl, by simpa using refused, rfl, rfl⟩
  case authorized =>
    intro claims caller authorized
    obtain ⟨ended, rfl, allowed⟩ := conclude_authorized_iff.1 authorized
    refine ⟨ended, rfl, allowed, ?_⟩
    unfold conclude
    rw [ended]
    dsimp only
    rw [if_pos allowed]
    exact ⟨rfl, rfl⟩
  case broken =>
    intro why
    rw [breaks]
    constructor
    · intro ended
      obtain ⟨c, -, -, blames⟩ := course.blamed _ ended
      cases blames with
      | broken wanted broke => exact ⟨_, wanted, broke⟩
    · rintro ⟨keyId, wanted, rfl⟩
      exact broken_of_course course wanted
  case unknown =>
    intro why broke
    have ended := (breaks why).1 broke
    unfold conclude
    rw [ended]
    exact ⟨no_claims, no_principal⟩

/-- The reports of a run with a token. -/
theorem Comes.report {g : Gate} {requirement : Requirement} {raw : String} {answer : KeyAnswer} {now : Number}
    {r : Validation} {run : Decision × RequestContext} (comes : Comes g requirement raw answer now r run)
    {cause : Rejection} {last : Stage} (rejected : run.1 = .rejected cause last) :
    (cause.reason, last) ∈ reports ∧ cause.reason ≠ .missingToken := by
  rcases comes.rejected cause last rejected with ⟨c, rest, order, blames, rfl, -⟩ | ⟨claims, -, rfl, rfl, -⟩
  · exact report_of_blames order blames
  · decide

/-- **Every run of the gate goes from stage to stage.**  A request comes without a token, which is all that it
is told; or its token is held against the checks in their order, on the answer of the search for its key and
the time after that search. -/
theorem run_stages {σ : Type} (g : Gate) (requirement : Requirement) (requestId : String)
    (token : Option String) (lookup : String → StateM σ KeyAnswer) (clock : StateM σ Number) (world : σ)
    (proper : ∀ keyId w, (lookup keyId w).1.Proper) :
    let run := (g.run lookup clock { requestId, token } requirement world).1
    (∀ cause last, run.1 = .rejected cause last →
      (cause.reason, last) ∈ reports ∧ (cause.reason = .missingToken ↔ token = none ∨ token = some "")) ∧
    (token = none ∨ token = some "" → run = (.rejected .noToken .received, { requestId, token })) ∧
    ∀ raw, token = some raw → raw ≠ "" → ∃ answer now,
      (∀ keyId, Token.Wanted g.validator raw keyId →
        answer = (lookup keyId world).1 ∧ now = (clock (lookup keyId world).2).1) ∧
      Comes g requirement raw answer now (g.validator.validate g.check lookup clock raw world).1 run := by
  intro run
  have refused : token = none ∨ token = some "" → run = (.rejected .noToken .received, { requestId, token }) := by
    intro absent
    dsimp only [run]
    rw [run_of_no_token _ _ _ _ _ absent]
    rfl
  have validated : ∀ raw, token = some raw → raw ≠ "" → ∃ answer now,
      (∀ keyId, Token.Wanted g.validator raw keyId →
        answer = (lookup keyId world).1 ∧ now = (clock (lookup keyId world).2).1) ∧
      Comes g requirement raw answer now (g.validator.validate g.check lookup clock raw world).1 run := by
    rintro raw rfl filled
    obtain ⟨answer, now, given, course⟩ := course_validate g.validator g.check lookup clock world raw proper
    have concluded : run = g.conclude { requestId, token := some raw } requirement
        (g.validator.validate g.check lookup clock raw world).1 := by
      dsimp only [run, Gate.run]
      rw [if_neg filled]
      rfl
    rw [concluded]
    exact ⟨answer, now, given, comes_of_course course rfl rfl⟩
  refine ⟨?_, refused, validated⟩
  intro cause last rejected
  by_cases absent : token = none ∨ token = some ""
  · rw [refused absent] at rejected
    cases rejected
    exact ⟨by decide, by simp only [absent, iff_true]; rfl⟩
  · obtain ⟨raw, rfl⟩ := Option.ne_none_iff_exists'.1 fun none => absent (.inl none)
    obtain ⟨answer, now, -, comes⟩ := validated raw rfl fun empty => absent (.inr (by rw [empty]))
    obtain ⟨listed, other⟩ := comes.report rejected
    exact ⟨listed, by simp only [absent, iff_false]; exact other⟩

/-- A token whose time is over and has yet to come, of another issuer and for nobody. -/
private def staleToken : Token where
  raw := "eyJhbGciOiJSUzI1NiIsImtpZCI6ImsifQ" ++ "." ++
    "eyJzdWIiOiJzIiwiaXNzIjoiaiIsImV4cCI6LTFlOTk5LCJuYmYiOjFlOTk5fQ" ++ "." ++ "AQID"
  header := [("alg", .string "RS256"), ("kid", .string "k")]
  payload := [("sub", .string "s"), ("iss", .string "j"), ("exp", .number (.infinite true)),
    ("nbf", .number (.infinite false))]
  algorithm := "RS256"
  subject := "s"

/-- A service that takes every signature. -/
private def trustingGate : Gate := ⟨{ issuer := "i", audience := "a" }, fun _ _ _ _ => true, "roles"⟩

/-- An issuer with one key for all key ids. -/
private def sameKey (_ : String) : StateM Unit KeyAnswer := pure (.found ⟨"k", .rsa ⟨33, 3⟩, .rs256⟩)

private theorem staleToken_cut :
    Token.segments? staleToken.raw = some ("eyJhbGciOiJSUzI1NiIsImtpZCI6ImsifQ",
      "eyJzdWIiOiJzIiwiaXNzIjoiaiIsImV4cCI6LTFlOTk5LCJuYmYiOjFlOTk5fQ", "AQID") :=
  Token.segments?_eq_some_iff.2 ⟨rfl, by decide, by decide, by decide⟩

private theorem staleToken_written : Token.Written staleToken.raw staleToken where
  same_text := rfl
  segments := by
    obtain ⟨joined, hh, hp, hs⟩ := Token.segments?_eq_some_iff.1 staleToken_cut
    exact ⟨_, _, _, joined, hh, hp, hs, by decide +kernel, by decide +kernel⟩
  algorithm := rfl
  subject := rfl
  subject_ne := by decide

/-- Of all that is wrong with a token, the gate tells only that its time is over. -/
theorem run_stages_of_stale_token :
    (∀ keyId w, (sameKey keyId w).1.Proper) ∧ ∃ run answer now r,
      run = (trustingGate.run sameKey (pure 5000) { requestId := "r", token := some staleToken.raw } ⟨[]⟩ ()).1 ∧
      run.1 = .rejected .expired .signatureChecked ∧ (Reason.expired, Stage.signatureChecked) ∈ reports ∧
      Comes trustingGate ⟨[]⟩ staleToken.raw answer now r run := by
  have proper : ∀ keyId w, (sameKey keyId w).1.Proper := by
    intro keyId w cause missing
    cases missing
  obtain ⟨listed, -, validated⟩ := run_stages trustingGate ⟨[]⟩ "r" (some staleToken.raw) sameKey (pure 5000) ()
    proper
  obtain ⟨answer, now, -, comes⟩ := validated _ rfl (ne_empty_of_written staleToken_written)
  have planned : trustingGate.validator.plan trustingGate.check staleToken.raw = .needsKey "k"
      (trustingGate.validator.resumption trustingGate.check staleToken .rs256) :=
    Validator.plan_eq_needsKey_iff.2 ⟨staleToken, .rs256, staleToken_written,
      ⟨rfl, by decide, rfl, by decide⟩, rfl⟩
  have verified : staleToken.verifies trustingGate.check ⟨"k", .rsa ⟨33, 3⟩, .rs256⟩ = true := by
    simp only [Token.verifies, Token.signedParts, staleToken_cut]
    rfl
  have late : checkTimes trustingGate.validator.tolerance 5000 staleToken.payload = .error .expired := by
    decide +kernel
  have resumed : trustingGate.validator.resumption trustingGate.check staleToken .rs256
      (.found ⟨"k", .rsa ⟨33, 3⟩, .rs256⟩) 5000 = .reject [.form, .signature] .expired := by
    rw [Validator.resumption, checkKey_eq_ok_iff.2 ⟨_, rfl, rfl, verified⟩]
    dsimp only
    rw [Validator.checkClaims, late]
  have rejected : (trustingGate.run sameKey (pure 5000) { requestId := "r", token := some staleToken.raw }
      ⟨[]⟩ ()).1.1 = .rejected .expired .signatureChecked := by
    rw [run_of_needsKey _ _ _ _ _ rfl (ne_empty_of_written staleToken_written) planned]
    simp only [sameKey, pure_bind, resumed]
    rfl
  exact ⟨proper, _, answer, now, _, rfl, rejected, (listed _ _ rejected).1, comes⟩

end Gate

end BearerGate
