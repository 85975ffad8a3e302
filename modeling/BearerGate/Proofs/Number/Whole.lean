import BearerGate.Proofs.Number.Decimal

/-!
# Whole numbers that the format holds

Below `2^53` every whole number is a number of the format (`ofNat_of_small`), and no two of them are the same one.
So a count that stays below can be told from its number: `toNat?` and `ofNat` are inverse to each other there.
-/

namespace BearerGate

namespace Number

theorem scale_pos : 0 < scale := Nat.two_pow_pos 1074

/-- Fewer than 54 bits fit on any grid of powers of two. -/
theorem roundSteps_mul_two_pow {n : Nat} (small : n < 2 ^ 53) (e : Nat) :
    roundSteps (n * Nat.pow 2 e) 1 = n * Nat.pow 2 e := by
  refine roundSteps_of_dvd (Nat.dvd_trans (Nat.pow_dvd_pow 2 ?_) (Nat.dvd_mul_left _ n))
  by_cases none : n = 0
  · rw [none, Nat.zero_mul, Nat.log2_zero]
    omega
  · have below : n * Nat.pow 2 e < 2 ^ (53 + e) := by
      rw [Nat.pow_add]
      exact Nat.mul_lt_mul_of_pos_right small (Nat.two_pow_pos e)
    have bits : (n * Nat.pow 2 e).log2 < 53 + e :=
      (Nat.log2_lt (Nat.mul_ne_zero none (Nat.two_pow_pos e).ne')).2 below
    omega

/-- **Below `2^53`** the steps of a whole number are counted exactly. -/
theorem roundSteps_whole {n : Nat} (small : n < 2 ^ 53) : roundSteps (n * scale) 1 = n * scale := by
  obtain ⟨e, power⟩ : ∃ e, scale = Nat.pow 2 e := ⟨1074, rfl⟩
  rw [power]
  exact roundSteps_mul_two_pow small e

/-- **Below `2^53`** a whole number is the number of its steps. -/
theorem ofInt_of_small {n : Int} (small : n.natAbs < 2 ^ 53) : ofInt n = finite (n * scale) := by
  have size : (n * (scale : Int)).natAbs = n.natAbs * scale := by rw [Int.natAbs_mul, Int.natAbs_natCast]
  have exactly : roundSteps (n.natAbs * scale) 1 = n.natAbs * scale := roundSteps_whole small
  have fits : n.natAbs * scale < topSteps := by
    calc n.natAbs * scale
      _ < 2 ^ 53 * scale := Nat.mul_lt_mul_of_pos_right small scale_pos
      _ < topSteps := by decide +kernel
  have positive : (0 : Int) < scale := Int.natCast_pos.2 scale_pos
  rw [ofInt, ofSignedQuotient, size, ofQuotient_of_fits _ (by rwa [exactly]), exactly]
  congr 1
  by_cases below : n < 0
  · rw [decide_eq_true (Int.mul_neg_of_neg_of_pos below positive), if_pos rfl, Int.natCast_mul, ← Int.neg_mul]
    congr 1
    omega
  · have : ¬n * (scale : Int) < 0 := Int.not_lt.2 (Int.mul_nonneg (Int.not_lt.1 below) positive.le)
    rw [decide_eq_false this, if_neg Bool.false_ne_true, Int.natCast_mul]
    congr 1
    omega

theorem ofNat_of_small {n : Nat} (small : n < 2 ^ 53) : ofNat n = finite (n * scale) := ofInt_of_small small

/-! ### Counts and their numbers -/

/-- The natural number of a number is the count of its units. -/
theorem toNat?_eq_some_iff {a : Number} {n : Nat} : a.toNat? = some n ↔ a = finite (n * scale) := by
  have positive : (0 : Int) < scale := Int.natCast_pos.2 scale_pos
  cases a with
  | finite k =>
    rw [toNat?, toInt?]
    by_cases whole : k % scale = 0
    · obtain ⟨q, rfl⟩ := Int.dvd_of_emod_eq_zero whole
      rw [if_pos whole, Int.mul_ediv_cancel_left q positive.ne', Option.bind_some, finite.injEq, Int.mul_comm,
        Int.mul_eq_mul_right_iff positive.ne']
      split
      · rw [Option.some.injEq]
        omega
      · constructor
        · rintro ⟨⟩
        · omega
    · rw [if_neg whole]
      constructor
      · rintro ⟨⟩
      · intro same
        rw [finite.inj same] at whole
        exact absurd (Int.mul_emod_left _ _) whole
  | _ =>
    constructor
    · rintro ⟨⟩
    · rintro ⟨⟩

/-- **A count below `2^53`** is read off its number. -/
theorem toNat?_ofNat {n : Nat} (small : n < 2 ^ 53) : (ofNat n).toNat? = some n :=
  toNat?_eq_some_iff.2 (ofNat_of_small small)

/-- **The only number** with that count. -/
theorem eq_ofNat_of_toNat? {a : Number} {n : Nat} (small : n < 2 ^ 53) (counted : a.toNat? = some n) : a = ofNat n :=
  (toNat?_eq_some_iff.1 counted).trans (ofNat_of_small small).symm

theorem ofNat_inj {m n : Nat} (small : m < 2 ^ 53) (small' : n < 2 ^ 53) (same : ofNat m = ofNat n) : m = n :=
  Option.some.inj ((toNat?_ofNat small).symm.trans ((congrArg toNat? same).trans (toNat?_ofNat small')))

end Number

end BearerGate
