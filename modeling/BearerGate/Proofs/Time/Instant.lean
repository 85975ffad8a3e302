import BearerGate.Proofs.Number.Whole
import BearerGate.Time.Instant

/-!
# Seconds that have an instant

A number of seconds has an instant exactly if it is at most `8640000000000` away from zero (`Timely`).  Inside, the
product with a thousand is rounded to the farthest instant at most, because that is a number of the format.  The next
number of the format outside is `2^(-10)` farther away, and its product is rounded to a whole millisecond too much.
-/

namespace BearerGate

open Number

-- The steps of a unit are never counted out here, except by the kernel.
attribute [local irreducible] Number.scale Number.topSteps

/-- **A number of seconds that has an instant.** -/
def Number.Timely (n : Number) : Prop := -8640000000000 ≤ n ∧ n ≤ 8640000000000

instance (n : Number) : Decidable n.Timely := inferInstanceAs (Decidable (_ ∧ _))

namespace Instant

/-- The farthest instant, in seconds. -/
def lastSecond : Nat := 8640000000000

/-- The steps of a product with a thousand. -/
def thousandfold (a : Int) : Nat := roundSteps (a.natAbs * 1000) 1

/-! ### In steps -/

theorem timely_iff {n : Number} :
    n.Timely ↔ finite (-(lastSecond * scale : Nat)) ≤ n ∧ n ≤ finite (lastSecond * scale : Nat) := by
  have last : (8640000000000 : Number) = finite (lastSecond * scale : Nat) := by
    change ofNat lastSecond = _
    rw [ofNat_of_small (by decide), Int.natCast_mul]
  have first : (-8640000000000 : Number) = finite (-(lastSecond * scale : Nat)) := by
    rw [last]
    rfl
  rw [Timely, first, last]

theorem timely_finite {a : Int} : (finite a).Timely ↔ a.natAbs ≤ lastSecond * scale := by
  rw [timely_iff, finite_le_finite, finite_le_finite]
  omega

/-- **The milliseconds of a number of seconds,** rounded. -/
theorem mul_thousand (a : Int) : finite a * 1000 = ofQuotient (decide (a < 0)) (a.natAbs * 1000) 1 := by
  have thousand : (1000 : Number) = finite (1000 * scale) := by
    change ofNat 1000 = _
    rw [ofNat_of_small (by decide)]
    rfl
  have positive : (0 : Int) < 1000 * scale := by
    have := Int.natCast_pos.2 scale_pos
    omega
  have sign : a * (1000 * (scale : Int)) < 0 ↔ a < 0 := by
    constructor
    · exact fun below => Int.not_le.1 fun above => Int.not_le.2 below (Int.mul_nonneg above positive.le)
    · exact fun below => Int.mul_neg_of_neg_of_pos below positive
  have size : (a * (1000 * (scale : Int))).natAbs = a.natAbs * 1000 * scale := by
    rw [Int.natAbs_mul, Int.natAbs_mul, Int.natAbs_natCast, ← Nat.mul_assoc]
    rfl
  rw [thousand]
  change ofSignedQuotient (a * (1000 * scale)) scale = _
  rw [ofSignedQuotient, size, decide_eq_decide.2 sign]
  exact ofQuotient_congr _ scale_pos Nat.one_pos (Nat.mul_one _)

/-- A finite product that is not too large has an instant. -/
theorem ofSeconds_of_fits {a : Int} (fits : thousandfold a ≤ limit * scale) :
    ∃ ms, (finite a * 1000).truncate? = some ms ∧ ofSeconds (finite a) = .valid ms := by
  have below : thousandfold a < topSteps := Nat.lt_of_le_of_lt fits (by decide +kernel)
  have product : finite a * 1000 = finite (if decide (a < 0) then -(thousandfold a : Int) else thousandfold a) := by
    rw [mul_thousand, ofQuotient_of_fits _ below]
    rfl
  have near : thousandfold a / scale ≤ limit := Nat.div_le_of_le_mul (by rwa [Nat.mul_comm])
  refine ⟨_, congrArg truncate? product, ?_⟩
  rw [ofSeconds, ofMillis, product]
  refine if_pos ?_
  split
  · rw [Int.neg_tdiv, Int.natAbs_neg, Int.natAbs_tdiv, Int.natAbs_natCast, Int.natAbs_natCast]
    exact near
  · rw [Int.natAbs_tdiv, Int.natAbs_natCast, Int.natAbs_natCast]
    exact near

/-- A product that is too large has none. -/
theorem ofSeconds_of_exceeds {a : Int} (exceeds : (limit + 1) * scale ≤ thousandfold a) :
    ofSeconds (finite a) = .invalid := by
  rw [ofSeconds, ofMillis, mul_thousand]
  by_cases fits : thousandfold a < topSteps
  · have far : limit < thousandfold a / scale := (Nat.le_div_iff_mul_le scale_pos).2 exceeds
    rw [ofQuotient_of_fits _ fits]
    refine if_neg (Nat.not_le.2 ?_)
    change limit < Int.natAbs (Int.tdiv (if decide (a < 0) then -(thousandfold a : Int) else thousandfold a) scale)
    split
    · rw [Int.neg_tdiv, Int.natAbs_neg, Int.natAbs_tdiv, Int.natAbs_natCast, Int.natAbs_natCast]
      exact far
    · rw [Int.natAbs_tdiv, Int.natAbs_natCast, Int.natAbs_natCast]
      exact far
  · rw [ofQuotient_of_overflow _ fits]
    rfl

/-! ### The bound -/

/-- **Every timely number of seconds has an instant,** that of its milliseconds without a fraction. -/
theorem ofSeconds_of_timely {n : Number} (timely : n.Timely) :
    ∃ ms, (n * 1000).truncate? = some ms ∧ ofSeconds n = .valid ms := by
  cases n with
  | finite a =>
    refine ofSeconds_of_fits ?_
    calc thousandfold a
      _ ≤ roundSteps (limit * scale) 1 := by
        refine roundSteps_mono Nat.one_pos ?_
        have bound := timely_finite.1 timely
        have split_up : limit = lastSecond * 1000 := rfl
        rw [split_up, Nat.mul_right_comm]
        exact Nat.mul_le_mul_right 1000 bound
      _ = limit * scale := roundSteps_whole (by decide)
  | nan => cases (timely_iff.1 timely).1
  | infinite negative =>
    cases negative with
    | false => cases (timely_iff.1 timely).2
    | true => cases (timely_iff.1 timely).1

/-- The steps between the numbers of the format at the last second. -/
private def gap : Nat := Nat.pow 2 1064

/-- **The next number of the format** after the last second. -/
theorem next_of_not_timely {a : Int} (held : (finite a).Held) (late : ¬(finite a).Timely) :
    (lastSecond * 1024 + 1) * gap ≤ a.natAbs := by
  have beyond : lastSecond * scale < a.natAbs := Nat.not_le.1 (mt timely_finite.2 late)
  have in_gaps : lastSecond * scale = lastSecond * 1024 * gap := by decide +kernel
  have coarse : gap ∣ a.natAbs := by
    have exactly := (held a rfl).1
    rw [roundSteps, Nat.div_one, Nat.one_mul] at exactly
    have bits : 1064 ≤ a.natAbs.log2 - 52 := by
      have last : (lastSecond * scale).log2 = 1116 := by decide +kernel
      have := log2_mono beyond.le
      omega
    have unit : Nat.pow 2 (a.natAbs.log2 - 52) ∣ a.natAbs := ⟨_, by rw [Nat.mul_comm]; exact exactly.symm⟩
    obtain ⟨e, power, small⟩ : ∃ e, gap = Nat.pow 2 e ∧ e ≤ 1064 := ⟨1064, by decide +kernel, Nat.le_refl _⟩
    rw [power]
    exact Nat.dvd_trans (Nat.pow_dvd_pow 2 (Nat.le_trans small bits)) unit
  obtain ⟨k, size⟩ := coarse
  rw [in_gaps, size, Nat.mul_comm gap k] at beyond
  rw [size, Nat.mul_comm gap k]
  exact Nat.mul_le_mul_right gap (Nat.lt_of_mul_lt_mul_right beyond)

/-- **A number of seconds that is not timely has no instant.** -/
theorem ofSeconds_of_not_timely {n : Number} (held : n.Held) (late : ¬n.Timely) : ofSeconds n = .invalid := by
  cases n with
  | finite a =>
    refine ofSeconds_of_exceeds ?_
    calc (limit + 1) * scale
      _ = roundSteps ((lastSecond * 1024 + 1) * gap * 1000) 1 := by decide +kernel
      _ ≤ thousandfold a := roundSteps_mono Nat.one_pos (Nat.mul_le_mul_right 1000 (next_of_not_timely held late))
  | nan => rfl
  | infinite negative => cases negative <;> decide +kernel

end Instant

end BearerGate
