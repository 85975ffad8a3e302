import BearerGate.Proofs.Number.Order
import BearerGate.Proofs.Gate.Stages

/-!
# The window of time in which a token counts

Two limits decide whether a token counts at a time: it has to be **alive** (`AliveAt`), and to have **begun**
(`BegunAt`).  Time only ever ends the one and brings about the other, and a greater tolerance only ever helps
both.  The check of the times fails for the first reason before it looks at the second.

So the verdict on a token under settled answers to the searches for its key has three phases at most, in this
order: not valid yet, past the check of the times, expired (`Validator.oneWindow`).  Within each of them the
validation is one and the same; and both limits are as the program computes them, with all the rounding.
-/

namespace BearerGate

/-! ### Two limits -/

/-- The limit of a payload's life, put off by a tolerance, is still to come. -/
def AliveAt (tolerance now : Number) (payload : Members) : Prop :=
  ∃ exp, Table.get? payload "exp" = some (.number exp) ∧ now.divNat 1000 < exp + tolerance

/-- The beginning of a payload's life, put forward by a tolerance, has come, if there is one. -/
def BegunAt (tolerance now : Number) (payload : Members) : Prop :=
  ∀ nbf, Table.get? payload "nbf" = some (.number nbf) → ¬now.divNat 1000 < nbf - tolerance

section Limits

variable {tolerance tolerance' now later : Number} {payload : Members}

/-- Whatever is alive has been alive before. -/
theorem AliveAt.before (le : now ≤ later) (alive : AliveAt tolerance later payload) :
    AliveAt tolerance now payload := by
  obtain ⟨exp, there, young⟩ := alive
  exact ⟨exp, there, Number.lt_of_le_of_lt (Number.divNat_mono (by decide) le) young⟩

/-- Whatever has begun stays begun. -/
theorem BegunAt.after (le : now ≤ later) (begun : BegunAt tolerance now payload) : BegunAt tolerance later payload :=
  fun nbf there early => begun nbf there (Number.lt_of_le_of_lt (Number.divNat_mono (by decide) le) early)

theorem AliveAt.raise (le : tolerance ≤ tolerance') (alive : AliveAt tolerance now payload) :
    AliveAt tolerance' now payload := by
  obtain ⟨exp, there, young⟩ := alive
  exact ⟨exp, there, Number.lt_add_of_le le young⟩

theorem BegunAt.raise (le : tolerance ≤ tolerance') (begun : BegunAt tolerance now payload) :
    BegunAt tolerance' now payload :=
  fun nbf there early => begun nbf there (Number.lt_sub_of_le le early)

/-- Why a payload is not alive: its limit is past, or it has none. -/
def lateness (payload : Members) : Rejection :=
  match Table.get? payload "exp" with
  | some (.number _) => .expired
  | _ => .noExpiry

theorem reason_lateness (payload : Members) : (lateness payload).reason = .expired := by
  unfold lateness
  split <;> rfl

/-- **The check of the times** looks at the end of the life first. -/
theorem checkTimes_of_dead (dead : ¬AliveAt tolerance now payload) :
    checkTimes tolerance now payload = .error (lateness payload) := by
  unfold checkTimes
  split
  · rename_i exp there
    have old : ¬now.divNat 1000 < exp + tolerance := fun young => dead ⟨exp, there, young⟩
    simp only [if_neg old, lateness, there]
  · rename_i no_number
    rw [lateness]
    split
    · rename_i exp there
      exact absurd there (no_number exp)
    · rfl

theorem checkTimes_of_unborn (alive : AliveAt tolerance now payload) (unborn : ¬BegunAt tolerance now payload) :
    checkTimes tolerance now payload = .error .notYetValid := by
  obtain ⟨exp, there, young⟩ := alive
  obtain ⟨nbf, there', early⟩ : ∃ nbf, Table.get? payload "nbf" = some (.number nbf) ∧
      now.divNat 1000 < nbf - tolerance := by simpa [BegunAt] using unborn
  simp only [checkTimes, there, there', young, early, if_true]

theorem checkTimes_of_inside (alive : AliveAt tolerance now payload) (begun : BegunAt tolerance now payload) :
    checkTimes tolerance now payload = .ok () :=
  checkTimes_eq_ok_iff.2 ⟨alive, begun⟩

example : [999999, 1000000, 1999999, 2000000].map (checkTimes 0 · [("nbf", .number 1000), ("exp", .number 2000)]) =
    [.error .notYetValid, .ok (), .ok (), .error .expired] := by decide +kernel

end Limits

/-! ### One window -/

/-- A validation that fails for a reason. -/
def Validation.FailsFor (r : Validation) (reason : Reason) : Prop :=
  ∃ cause, r.result = .error (.rejected cause) ∧ cause.reason = reason

/-- A rejection fails for its own reason and no other. -/
theorem Validation.failsFor_reject {passed : List Check} {cause : Rejection} {reason : Reason} :
    (Validation.reject passed cause).FailsFor reason ↔ cause.reason = reason := by
  constructor
  · rintro ⟨cause', same, rfl⟩
    cases same
    rfl
  · exact fun same => ⟨cause, rfl, same⟩

/-- What ends with claims fails for no reason. -/
theorem Validation.not_failsFor {r : Validation} {claims : Claims} (ended : r.result = .ok claims) (reason : Reason) :
    ¬r.FailsFor reason := by
  rintro ⟨cause, failed, -⟩
  rw [ended] at failed
  cases failed

/-- A validation that does not fail over the time. -/
def Validation.InTime (r : Validation) : Prop := ¬r.FailsFor .expired ∧ ¬r.FailsFor .notYetValid

/-- **Validations at all times with one window.**  What is expired stays so, and what is not valid yet has not
been so before; and at all times at which neither is the case the validation is the same. -/
structure OneWindow (verdict : Number → Validation) : Prop where
  expired : ∀ {now later}, now ≤ later → (verdict now).FailsFor .expired → verdict later = verdict now
  early : ∀ {earlier now}, earlier ≤ now → (verdict now).FailsFor .notYetValid → verdict earlier = verdict now
  inside : ∀ {now now'}, (verdict now).InTime → (verdict now').InTime → verdict now = verdict now'

/-- A validation that never changes has one window. -/
theorem OneWindow.const (r : Validation) : OneWindow fun _ => r := ⟨fun _ _ => rfl, fun _ _ => rfl, fun _ _ => rfl⟩

/-- **Between two times of acceptance** there is nothing but acceptance, with the same claims. -/
theorem OneWindow.between {verdict : Number → Validation} (window : OneWindow verdict) {first now last : Number}
    (after : first ≤ now) (before : now ≤ last) {claims claims' : Claims}
    (ended : (verdict first).result = .ok claims) (ended' : (verdict last).result = .ok claims') :
    verdict now = verdict first := by
  refine window.inside ⟨fun fails => ?_, fun fails => ?_⟩
    ⟨Validation.not_failsFor ended _, Validation.not_failsFor ended _⟩
  · have late := window.expired before fails
    rw [← late] at fails
    exact Validation.not_failsFor ended' _ fails
  · have early := window.early after fails
    rw [← early] at fails
    exact Validation.not_failsFor ended _ fails

namespace Validator

/-! ### The checks of the claims -/

section Claims

variable {v : Validator} {now later : Number} {t : Token}

theorem checkClaims_of_dead (dead : ¬AliveAt v.tolerance now t.payload) :
    v.checkClaims now t = .reject [.form, .signature] (lateness t.payload) := by
  simp only [checkClaims, checkTimes_of_dead dead]

theorem checkClaims_of_unborn (alive : AliveAt v.tolerance now t.payload)
    (unborn : ¬BegunAt v.tolerance now t.payload) :
    v.checkClaims now t = .reject [.form, .signature] .notYetValid := by
  simp only [checkClaims, checkTimes_of_unborn alive unborn]

/-- **Past the check of the times, neither the clock nor the tolerance matters.** -/
theorem checkClaims_of_inside {tolerance : Number} (alive : AliveAt v.tolerance now t.payload)
    (begun : BegunAt v.tolerance now t.payload) (alive' : AliveAt tolerance later t.payload)
    (begun' : BegunAt tolerance later t.payload) :
    ({ v with tolerance } : Validator).checkClaims later t = v.checkClaims now t := by
  simp only [checkClaims, checkTimes_of_inside alive begun, checkTimes_of_inside alive' begun']

/-- The later checks fail for reasons of their own. -/
theorem reason_of_inside (alive : AliveAt v.tolerance now t.payload) (begun : BegunAt v.tolerance now t.payload)
    {reason : Reason} (fails : (v.checkClaims now t).FailsFor reason) :
    reason = .issuerMismatch ∨ reason = .audienceMismatch := by
  obtain ⟨cause, ended, rfl⟩ := fails
  simp only [checkClaims, checkTimes_of_inside alive begun] at ended
  split at ended
  · rename_i other foreign
    cases ended
    exact .inl (reason_of_checkIssuer foreign)
  · split at ended
    · rename_i other elsewhere
      cases ended
      exact .inr (reason_of_checkAudience elsewhere)
    · cases ended

end Claims

/-- A token fails as expired exactly if its payload is not alive. -/
theorem failsFor_expired_iff {v : Validator} {now : Number} {t : Token} :
    (v.checkClaims now t).FailsFor .expired ↔ ¬AliveAt v.tolerance now t.payload := by
  by_cases alive : AliveAt v.tolerance now t.payload
  · refine iff_of_false (fun fails => ?_) (not_not_intro alive)
    by_cases begun : BegunAt v.tolerance now t.payload
    · rcases reason_of_inside alive begun fails with other | other <;> cases other
    · rw [checkClaims_of_unborn alive begun, Validation.failsFor_reject] at fails
      cases fails
  · rw [checkClaims_of_dead alive, Validation.failsFor_reject]
    exact iff_of_true (reason_lateness _) alive

/-- It fails as not valid yet exactly if it is alive and has not begun. -/
theorem failsFor_notYetValid_iff {v : Validator} {now : Number} {t : Token} :
    (v.checkClaims now t).FailsFor .notYetValid ↔
      AliveAt v.tolerance now t.payload ∧ ¬BegunAt v.tolerance now t.payload := by
  by_cases alive : AliveAt v.tolerance now t.payload
  · by_cases begun : BegunAt v.tolerance now t.payload
    · refine iff_of_false (fun fails => ?_) fun limits => limits.2 begun
      rcases reason_of_inside alive begun fails with other | other <;> cases other
    · rw [checkClaims_of_unborn alive begun, Validation.failsFor_reject]
      exact iff_of_true rfl ⟨alive, begun⟩
  · refine iff_of_false (fun fails => ?_) fun limits => alive limits.1
    rw [checkClaims_of_dead alive, Validation.failsFor_reject, reason_lateness] at fails
    cases fails

/-- **The checks of the claims have one window.** -/
theorem oneWindow_checkClaims (v : Validator) (t : Token) : OneWindow fun now => v.checkClaims now t := by
  refine ⟨?_, ?_, ?_⟩
  · intro now later le fails
    have dead := failsFor_expired_iff.1 fails
    exact (checkClaims_of_dead fun alive => dead (alive.before le)).trans (checkClaims_of_dead dead).symm
  · intro earlier now le fails
    obtain ⟨alive, unborn⟩ := failsFor_notYetValid_iff.1 fails
    exact (checkClaims_of_unborn (alive.before le) fun begun => unborn (begun.after le)).trans
      (checkClaims_of_unborn alive unborn).symm
  · intro now now' fine fine'
    have limits : ∀ {now}, (v.checkClaims now t).InTime →
        AliveAt v.tolerance now t.payload ∧ BegunAt v.tolerance now t.payload := by
      intro now fine
      have alive : AliveAt v.tolerance now t.payload :=
        Classical.not_not.1 fun dead => fine.1 (failsFor_expired_iff.2 dead)
      exact ⟨alive, Classical.not_not.1 fun unborn => fine.2 (failsFor_notYetValid_iff.2 ⟨alive, unborn⟩)⟩
    exact checkClaims_of_inside (limits fine').1 (limits fine').2 (limits fine).1 (limits fine).2

/-- **A greater tolerance keeps what is accepted.** -/
theorem checkClaims_raise {v : Validator} {tolerance now : Number} {t : Token} {claims : Claims}
    (le : v.tolerance ≤ tolerance) (accepted : (v.checkClaims now t).result = .ok claims) :
    ({ v with tolerance } : Validator).checkClaims now t = v.checkClaims now t := by
  obtain ⟨alive, begun⟩ := checkTimes_eq_ok_iff.1 (checkClaims_eq_ok_iff.1 accepted).1
  exact checkClaims_of_inside alive begun (AliveAt.raise le alive) (BegunAt.raise le begun)

/-! ### Whole validations -/

/-- **What a validator makes of a text at a time,** where every search for a key has a settled answer. -/
def verdict (v : Validator) (check : SignatureCheck) (keys : String → KeyAnswer) (raw : String) (now : Number) :
    Validation :=
  Id.run (v.validate check (fun keyId => pure (keys keyId)) (pure now) raw)

/-- A verdict is settled whatever the clock and the tolerance, or it is up to the checks of the claims. -/
theorem verdict_cases (v : Validator) (check : SignatureCheck) (keys : String → KeyAnswer) (raw : String) :
    (∃ r, ∀ tolerance now, ({ v with tolerance } : Validator).verdict check keys raw now = r) ∨
      ∃ t, ∀ tolerance now, ({ v with tolerance } : Validator).verdict check keys raw now =
        ({ v with tolerance } : Validator).checkClaims now t := by
  unfold verdict validate plan
  cases Token.ofText raw with
  | error cause => exact .inl ⟨_, fun _ _ => rfl⟩
  | ok t =>
    cases named : SigningAlgorithm.ofName? t.algorithm with
    | none => exact .inl ⟨.reject [.form] .algorithmNotAccepted, fun _ _ => by simp only [named]; rfl⟩
    | some a =>
      by_cases accepted : v.algorithms.contains a = true
      · cases found : t.keyId? with
        | none => exact .inl ⟨.reject [.form] .noKeyId, fun _ _ => by simp only [named, accepted, found]; rfl⟩
        | some keyId =>
          cases signed : checkKey check t a (keys keyId) with
          | error failure =>
            refine .inl ⟨⟨[.form], .error failure⟩, fun _ _ => ?_⟩
            simp only [named, accepted, found]
            simp [signed]
          | ok _ =>
            refine .inr ⟨t, fun _ _ => ?_⟩
            simp only [named, accepted, found]
            simp [signed]
      · exact .inl ⟨.reject [.form] .algorithmNotAccepted, fun _ _ => by simp only [named, accepted]; rfl⟩

/-- **Validity is one window of time.**  As the clock goes on, a token is first not valid yet, then past the check
of the times, then expired, and never goes back; from the second phase on neither the later checks nor the claims
depend on the clock, so it is accepted at all times between two at which it is; and a greater tolerance rejects
nothing that is accepted. -/
theorem verdict_window (v : Validator) (check : SignatureCheck) (keys : String → KeyAnswer) (raw : String) :
    OneWindow (v.verdict check keys raw) ∧
    (∀ first now last claims claims', first ≤ now → now ≤ last →
      (v.verdict check keys raw first).result = .ok claims → (v.verdict check keys raw last).result = .ok claims' →
      v.verdict check keys raw now = v.verdict check keys raw first) ∧
    ∀ tolerance now claims, v.tolerance ≤ tolerance → (v.verdict check keys raw now).result = .ok claims →
      ({ v with tolerance } : Validator).verdict check keys raw now = v.verdict check keys raw now := by
  have window : OneWindow (v.verdict check keys raw) := by
    rcases v.verdict_cases check keys raw with ⟨r, settled⟩ | ⟨t, checked⟩
    · have same : v.verdict check keys raw = fun _ => r := funext fun now => settled v.tolerance now
      rw [same]
      exact .const r
    · have same : v.verdict check keys raw = fun now => v.checkClaims now t :=
        funext fun now => checked v.tolerance now
      rw [same]
      exact oneWindow_checkClaims v t
  refine ⟨window, ?_, ?_⟩
  · exact fun first now last claims claims' after before ended ended' => window.between after before ended ended'
  · intro tolerance now claims le accepted
    rcases v.verdict_cases check keys raw with ⟨r, settled⟩ | ⟨t, checked⟩
    · exact (settled tolerance now).trans (settled v.tolerance now).symm
    · have own : v.verdict check keys raw now = v.checkClaims now t := checked v.tolerance now
      rw [own] at accepted ⊢
      rw [checked tolerance now]
      exact checkClaims_raise le accepted

end Validator

end BearerGate
