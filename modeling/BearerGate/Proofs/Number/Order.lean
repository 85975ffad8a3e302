import BearerGate.Number.Basic

/-!
# Order and rounding

Rounding respects the order (`ofSignedQuotient_mono`): within one binade because the nearest whole number
does, and from one binade to the next because the power of two between them is exact on either side.  So
differences are ordered as they should be: the later of two readings of a clock is never measured closer to an
earlier one (`sub_le_sub_left`), though every difference is rounded.  A limit that is put off by more is no
earlier, be it past the finite numbers (`lt_add_of_le`, `lt_sub_of_le`).

`nan` is the only number that is not ordered, and a difference of finite numbers never is `nan`.
-/

namespace BearerGate

namespace Number

/-! ### The nearest whole number -/

theorem nearestEven_bounds (num den : Nat) :
    num / den ≤ nearestEven num den ∧ nearestEven num den ≤ num / den + 1 := by
  rw [nearestEven]
  split
  · omega
  · split <;> omega

/-- A multiple is nearest to itself. -/
theorem nearestEven_mul {den : Nat} (positive : 0 < den) (k : Nat) : nearestEven (k * den) den = k := by
  rw [nearestEven, Nat.mul_mod_left, Nat.mul_div_cancel k positive, Nat.mul_zero, if_pos positive]

theorem nearestEven_mono (den : Nat) {num num' : Nat} (le : num ≤ num') :
    nearestEven num den ≤ nearestEven num' den := by
  have quotients : num / den ≤ num' / den := Nat.div_le_div_right le
  rcases Nat.lt_or_eq_of_le quotients with less | same
  · calc nearestEven num den
      _ ≤ num / den + 1 := (nearestEven_bounds num den).2
      _ ≤ num' / den := less
      _ ≤ nearestEven num' den := (nearestEven_bounds num' den).1
  · -- With one quotient, the remainders decide.
    have remainders : num % den ≤ num' % den := by
      have whole := Nat.div_add_mod num den
      have whole' := Nat.div_add_mod num' den
      rw [same] at whole
      omega
    simp only [nearestEven, same]
    grind

/-! ### Rounding to the bits of the format -/

theorem log2_mono {m n : Nat} (le : m ≤ n) : m.log2 ≤ n.log2 := by
  by_cases zero : m = 0
  · rw [zero, Nat.log2_zero]
    exact Nat.zero_le _
  · have positive : n ≠ 0 := fun none => zero (Nat.le_zero.1 (none ▸ le))
    exact (Nat.le_log2 positive).2 (Nat.le_trans (Nat.log2_self_le zero) le)

/-- On any grid that is fine enough for it, a power of two is exact. -/
theorem nearestEven_two_pow {den : Nat} (positive : 0 < den) {e k : Nat} (fine : e ≤ k) :
    nearestEven (Nat.pow 2 k * den) (den * Nat.pow 2 e) * Nat.pow 2 e = Nat.pow 2 k := by
  have split_off : Nat.pow 2 (k - e) * Nat.pow 2 e = Nat.pow 2 k := Nat.pow_sub_mul_pow 2 fine
  have whole : Nat.pow 2 k * den = Nat.pow 2 (k - e) * (den * Nat.pow 2 e) := by
    rw [← split_off]
    ac_rfl
  have grid : 0 < den * Nat.pow 2 e := Nat.mul_pos positive (Nat.two_pow_pos e)
  rw [whole, nearestEven_mul grid, split_off]

theorem roundSteps_mono {den : Nat} (positive : 0 < den) {num num' : Nat} (le : num ≤ num') :
    roundSteps num den ≤ roundSteps num' den := by
  have quotients : num / den ≤ num' / den := Nat.div_le_div_right le
  simp only [roundSteps]
  rcases Nat.lt_or_eq_of_le (log2_mono quotients) with less | same
  · -- The power of two at which the upper quotient begins lies between the two, and is exact for both.
    have upper_ne : num' / den ≠ 0 := by
      intro zero
      rw [zero, Nat.log2_zero] at less
      exact Nat.not_lt_zero _ less
    have below : num ≤ Nat.pow 2 (num' / den).log2 * den := by
      refine Nat.le_of_lt ((Nat.div_lt_iff_lt_mul positive).1 ?_)
      exact Nat.lt_of_lt_of_le Nat.lt_log2_self (Nat.pow_le_pow_right Nat.two_pos less)
    have above : Nat.pow 2 (num' / den).log2 * den ≤ num' :=
      (Nat.le_div_iff_mul_le positive).1 (Nat.log2_self_le upper_ne)
    generalize (num' / den).log2 = k at less below above ⊢
    generalize (num / den).log2 = j at less ⊢
    calc nearestEven num (den * Nat.pow 2 (j - 52)) * Nat.pow 2 (j - 52)
      _ ≤ nearestEven (Nat.pow 2 k * den) (den * Nat.pow 2 (j - 52)) * Nat.pow 2 (j - 52) :=
        Nat.mul_le_mul_right _ (nearestEven_mono _ below)
      _ = Nat.pow 2 k := nearestEven_two_pow positive (by omega)
      _ = nearestEven (Nat.pow 2 k * den) (den * Nat.pow 2 (k - 52)) * Nat.pow 2 (k - 52) :=
        (nearestEven_two_pow positive (Nat.sub_le k 52)).symm
      _ ≤ nearestEven num' (den * Nat.pow 2 (k - 52)) * Nat.pow 2 (k - 52) :=
        Nat.mul_le_mul_right _ (nearestEven_mono _ above)
  · rw [same]
    exact Nat.mul_le_mul_right _ (nearestEven_mono _ le)

/-! ### Order -/

attribute [local grind] Number.le Number.lt

theorem le_iff (a b : Number) : a ≤ b ↔ le a b = true := Iff.rfl

theorem lt_iff (a b : Number) : a < b ↔ lt a b = true := Iff.rfl

theorem finite_le_finite {a b : Int} : finite a ≤ finite b ↔ a ≤ b := decide_eq_true_iff

theorem exists_finite {a : Number} (whole : a.isFinite = true) : ∃ steps, a = finite steps := by
  cases a with
  | nan => cases whole
  | infinite negative => cases whole
  | finite steps => exact ⟨steps, rfl⟩

theorem le_self {a : Number} (whole : a.isFinite = true) : a ≤ a := by
  obtain ⟨steps, rfl⟩ := exists_finite whole
  exact finite_le_finite.2 (Int.le_refl steps)

theorem le_infinite {a : Number} (ordered : a ≠ nan) : a ≤ infinite false := by
  cases a with
  | nan => exact absurd rfl ordered
  | infinite negative => exact Bool.or_true negative
  | finite steps => rfl

theorem infinite_le {a : Number} (ordered : a ≠ nan) : infinite true ≤ a := by
  cases a with
  | nan => exact absurd rfl ordered
  | infinite negative => rfl
  | finite steps => rfl

theorem le_trans {a b c : Number} (first : a ≤ b) (second : b ≤ c) : a ≤ c := by
  rw [le_iff] at first second ⊢
  cases a <;> cases b <;> cases c <;> grind

theorem lt_of_le_of_lt {a b c : Number} (first : a ≤ b) (second : b < c) : a < c := by
  rw [le_iff] at first
  rw [lt_iff] at second ⊢
  cases a <;> cases b <;> cases c <;> grind

theorem lt_of_lt_of_le {a b c : Number} (first : a < b) (second : b ≤ c) : a < c := by
  rw [le_iff] at second
  rw [lt_iff] at first ⊢
  cases a <;> cases b <;> cases c <;> grind

theorem ne_nan_of_lt {a b : Number} (less : a < b) : b ≠ nan := by
  rintro rfl
  cases a <;> cases less

/-- Two numbers that are ordered at all are ordered one way or the other. -/
theorem le_of_not_lt {a b : Number} (left : a ≠ nan) (right : b ≠ nan) (not_less : ¬a < b) : b ≤ a := by
  rw [lt_iff] at not_less
  rw [le_iff]
  cases a <;> cases b <;> grind

theorem not_lt_of_le {a b : Number} (le : a ≤ b) : ¬b < a := by
  rw [le_iff] at le
  rw [lt_iff]
  cases a <;> cases b <;> grind

/-! ### Rounded numbers -/

theorem ofQuotient_ne_nan (negative : Bool) (num den : Nat) : ofQuotient negative num den ≠ nan := by
  rw [ofQuotient]
  split <;> simp

theorem ofSignedQuotient_ne_nan (num : Int) (den : Nat) : ofSignedQuotient num den ≠ nan := by
  rw [ofSignedQuotient]
  exact ofQuotient_ne_nan _ _ _

/-- The more steps, the greater the number, and the smaller with its sign turned. -/
theorem ofQuotient_mono {den : Nat} (positive : 0 < den) {num num' : Nat} (le : num ≤ num') :
    ofQuotient false num den ≤ ofQuotient false num' den ∧
      ofQuotient true num' den ≤ ofQuotient true num den := by
  have steps := roundSteps_mono positive le
  by_cases fits : roundSteps num' den < topSteps
  · have fits' : roundSteps num den < topSteps := Nat.lt_of_le_of_lt steps fits
    simp only [ofQuotient, if_pos fits, if_pos fits', finite_le_finite]
    constructor
    · exact Int.ofNat_le.2 steps
    · exact Int.neg_le_neg (Int.ofNat_le.2 steps)
  · have overflow : ∀ negative, ofQuotient negative num' den = infinite negative := by
      intro negative
      rw [ofQuotient, if_neg fits]
    rw [overflow, overflow]
    exact ⟨le_infinite (ofQuotient_ne_nan _ _ _), infinite_le (ofQuotient_ne_nan _ _ _)⟩

/-- No steps are zero, whatever the sign. -/
theorem ofQuotient_zero {den : Nat} (positive : 0 < den) (negative : Bool) :
    ofQuotient negative 0 den = finite 0 := by
  have zero : roundSteps 0 den = 0 := by
    simp only [roundSteps]
    generalize (0 / den).log2 - 52 = e
    have grid : 0 < den * Nat.pow 2 e := Nat.mul_pos positive (Nat.two_pow_pos e)
    have exactly := nearestEven_mul grid 0
    rw [Nat.zero_mul] at exactly
    rw [exactly, Nat.zero_mul]
  have fits : 0 < topSteps := Nat.two_pow_pos 2098
  rw [ofQuotient, zero, if_pos fits]
  cases negative <;> rfl

/-- **Rounding respects the order.** -/
theorem ofSignedQuotient_mono {den : Nat} (positive : 0 < den) {a b : Int} (le : a ≤ b) :
    ofSignedQuotient a den ≤ ofSignedQuotient b den := by
  rw [ofSignedQuotient, ofSignedQuotient]
  by_cases upper : b < 0
  · have lower : a < 0 := Int.lt_of_le_of_lt le upper
    rw [decide_eq_true upper, decide_eq_true lower]
    exact (ofQuotient_mono positive (by omega)).2
  · rw [decide_eq_false upper]
    by_cases lower : a < 0
    · rw [decide_eq_true lower]
      have below : ofQuotient true a.natAbs den ≤ finite 0 := by
        rw [← ofQuotient_zero positive true]
        exact (ofQuotient_mono positive (Nat.zero_le _)).2
      have above : finite 0 ≤ ofQuotient false b.natAbs den := by
        rw [← ofQuotient_zero positive false]
        exact (ofQuotient_mono positive (Nat.zero_le _)).1
      exact le_trans below above
    · rw [decide_eq_false lower]
      exact (ofQuotient_mono positive (by omega)).1

/-- **Division respects the order.** -/
theorem divNat_mono {d : Nat} (positive : 0 < d) {a b : Number} (le : a ≤ b) : a.divNat d ≤ b.divNat d := by
  cases a with
  | nan => cases le
  | infinite s =>
    cases b with
    | nan => cases le
    | infinite t => exact le
    | finite b =>
      obtain rfl : s = true := le
      exact infinite_le (ofSignedQuotient_ne_nan b d)
  | finite a =>
    cases b with
    | nan => cases le
    | infinite t =>
      obtain rfl : t = false := by simpa using (show (!t) = true from le)
      exact le_infinite (ofSignedQuotient_ne_nan a d)
    | finite b => exact ofSignedQuotient_mono positive (finite_le_finite.1 le)

/-- A greater whole number is no smaller number. -/
theorem ofNat_mono {m n : Nat} (le : m ≤ n) : ofNat m ≤ ofNat n := by
  have scaled : ∀ factor : Nat, (m : Int) * factor ≤ n * factor := fun factor =>
    Int.mul_le_mul_of_nonneg_right (Int.ofNat_le.2 le) (Int.natCast_nonneg factor)
  rw [ofNat, ofNat, ofInt, ofInt]
  exact ofSignedQuotient_mono Nat.one_pos (scaled scale)

/-! ### Sums -/

theorem add_finite (a b : Int) : finite a + finite b = ofSignedQuotient (a + b) 1 := by
  simp only [HAdd.hAdd, Add.add, add]

theorem not_lt_infinite (x : Number) : ¬x < infinite true := by
  rw [lt_iff]
  cases x <;> simp [lt]

/-- **A sum is raised with its second part:** what is below it stays below it. -/
theorem lt_add_of_le {x e a b : Number} (le : a ≤ b) (less : x < e + a) : x < e + b := by
  cases e with
  | nan =>
    have nothing : nan + a = nan := by cases a <;> rfl
    exact absurd nothing (ne_nan_of_lt less)
  | infinite s =>
    cases a with
    | nan => cases le
    | finite a =>
      cases s with
      | true => exact absurd less (not_lt_infinite x)
      | false =>
        cases b with
        | nan => cases le
        | finite b => exact less
        | infinite t =>
          obtain rfl : t = false := by simpa using (show (!t) = true from le)
          exact less
    | infinite t =>
      by_cases same : s = t
      · subst same
        cases s with
        | true => exact absurd less (not_lt_infinite x)
        | false =>
          cases b with
          | infinite u =>
            obtain rfl : u = false := by simpa using (show (!u) = true from le)
            exact less
          | _ => cases le
      · have nothing : infinite s + infinite t = nan := if_neg same
        exact absurd nothing (ne_nan_of_lt less)
  | finite e =>
    cases b with
    | nan => cases a <;> cases le
    | infinite t =>
      cases t with
      | true =>
        cases a with
        | infinite s =>
          obtain rfl : s = true := by simpa [le_iff, Number.le] using le
          exact less
        | _ => cases le
      | false => exact lt_of_lt_of_le less (le_infinite (ne_nan_of_lt less))
    | finite b =>
      cases a with
      | nan => cases le
      | infinite s =>
        obtain rfl : s = true := le
        exact absurd less (not_lt_infinite x)
      | finite a =>
        rw [add_finite] at less ⊢
        exact lt_of_lt_of_le less (ofSignedQuotient_mono Nat.one_pos (Int.add_le_add_left (finite_le_finite.1 le) e))

/-! ### Differences -/

theorem neg_le_neg {a b : Number} (le : a ≤ b) : -b ≤ -a := by
  have turned : ∀ s t : Bool, (s || !t) = (!t || !(!s)) := by decide
  cases a with
  | nan => cases le
  | infinite s =>
    cases b with
    | nan => cases le
    | infinite t => exact (turned s t).symm.trans le
    | finite b =>
      obtain rfl : s = true := le
      rfl
  | finite a =>
    cases b with
    | nan => cases le
    | infinite t => exact le
    | finite b => exact finite_le_finite.2 (Int.neg_le_neg (finite_le_finite.1 le))

theorem sub_eq_add_neg (a b : Number) : a - b = a + -b := rfl

/-- **A difference falls when more is taken away:** what is below it has been below it. -/
theorem lt_sub_of_le {x e a b : Number} (le : a ≤ b) (less : x < e - b) : x < e - a := by
  rw [sub_eq_add_neg] at less ⊢
  exact lt_add_of_le (neg_le_neg le) less

theorem sub_finite (a b : Int) : finite a - finite b = ofSignedQuotient (a + -b) 1 := by
  simp only [HSub.hSub, Sub.sub, sub, neg, add]

theorem sub_ne_nan {a b : Number} (left : a.isFinite = true) (right : b.isFinite = true) : a - b ≠ nan := by
  obtain ⟨a, rfl⟩ := exists_finite left
  obtain ⟨b, rfl⟩ := exists_finite right
  rw [sub_finite]
  exact ofSignedQuotient_ne_nan _ _

/-- **Taking more away leaves less.** -/
theorem sub_le_sub_left {a b c : Number} (first : a.isFinite = true) (second : b.isFinite = true)
    (third : c.isFinite = true) (le : a ≤ b) : c - b ≤ c - a := by
  obtain ⟨a, rfl⟩ := exists_finite first
  obtain ⟨b, rfl⟩ := exists_finite second
  obtain ⟨c, rfl⟩ := exists_finite third
  rw [finite_le_finite] at le
  rw [sub_finite, sub_finite]
  exact ofSignedQuotient_mono Nat.one_pos (by omega)

end Number

end BearerGate
