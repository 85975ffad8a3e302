import Mathlib
import BearerGate.Number.Reading
import BearerGate.Proofs.Number.Order

/-!
# Decimals that read back

The decimal that is chosen for a number of the format (`Number.Held`) reads back as that number, either
because that was tried or because the decimal is exact (`Decimal.shortest_reads`).  Rounding depends on
nothing but the value of a quotient (`roundSteps_congr`), so zeros at the end of the digits do not matter
(`ofDecimal_mul_pow`).
-/

namespace BearerGate

namespace Number

/-! ### Rounding a quotient -/

theorem nearestEven_mul_mul {c : Nat} (positive : 0 < c) (num den : Nat) :
    nearestEven (num * c) (den * c) = nearestEven num den := by
  have below : 2 * (num % den * c) < den * c ↔ 2 * (num % den) < den := by
    rw [← Nat.mul_assoc]
    exact Nat.mul_lt_mul_right positive
  have above : den * c < 2 * (num % den * c) ↔ den < 2 * (num % den) := by
    rw [← Nat.mul_assoc]
    exact Nat.mul_lt_mul_right positive
  simp only [nearestEven, Nat.mul_div_mul_right _ _ positive, Nat.mul_mod_mul_right, below, above]

theorem roundSteps_mul {c : Nat} (positive : 0 < c) (num den : Nat) :
    roundSteps (num * c) (den * c) = roundSteps num den := by
  simp only [roundSteps, Nat.mul_div_mul_right _ _ positive]
  rw [Nat.mul_right_comm, nearestEven_mul_mul positive]

/-- **Equal quotients are rounded alike.** -/
theorem roundSteps_congr {a b c d : Nat} (hb : 0 < b) (hd : 0 < d) (same : a * d = c * b) :
    roundSteps a b = roundSteps c d := by
  calc roundSteps a b
    _ = roundSteps (a * d) (b * d) := (roundSteps_mul hd a b).symm
    _ = roundSteps (c * b) (d * b) := by rw [same, Nat.mul_comm b d]
    _ = roundSteps c d := roundSteps_mul hb c d

theorem ofQuotient_congr (negative : Bool) {a b c d : Nat} (hb : 0 < b) (hd : 0 < d)
    (same : a * d = c * b) : ofQuotient negative a b = ofQuotient negative c d := by
  rw [ofQuotient, ofQuotient, roundSteps_congr hb hd same]

theorem ofQuotient_of_fits (negative : Bool) {num den : Nat} (fits : roundSteps num den < topSteps) :
    ofQuotient negative num den =
      finite (if negative then -(roundSteps num den : Int) else roundSteps num den) := by
  simp only [ofQuotient, if_pos fits]

theorem ofQuotient_of_overflow (negative : Bool) {num den : Nat} (overflow : ¬roundSteps num den < topSteps) :
    ofQuotient negative num den = infinite negative := by
  simp only [ofQuotient, if_neg overflow]

theorem ofQuotient_true (num den : Nat) : ofQuotient true num den = neg (ofQuotient false num den) := by
  by_cases fits : roundSteps num den < topSteps
  · rw [ofQuotient_of_fits true fits, ofQuotient_of_fits false fits]
    rfl
  · rw [ofQuotient_of_overflow true fits, ofQuotient_of_overflow false fits]
    rfl

/-- A count of steps is kept if its last bits are zero. -/
theorem roundSteps_of_dvd {k : Nat} (whole : Nat.pow 2 (k.log2 - 52) ∣ k) : roundSteps k 1 = k := by
  obtain ⟨q, split⟩ := whole
  have unit_pos : 0 < Nat.pow 2 (k.log2 - 52) := Nat.two_pow_pos _
  rw [roundSteps, Nat.div_one, Nat.one_mul]
  generalize Nat.pow 2 (k.log2 - 52) = unit at split unit_pos
  rw [split, Nat.mul_comm unit q, nearestEven_mul unit_pos]

theorem roundSteps_two_pow {den : Nat} (positive : 0 < den) (k : Nat) :
    roundSteps (Nat.pow 2 k * den) den = Nat.pow 2 k := by
  have quotient : Nat.pow 2 k * den / den = Nat.pow 2 k := Nat.mul_div_cancel _ positive
  have bits : (Nat.pow 2 k).log2 = k := Nat.log2_two_pow
  rw [roundSteps, quotient, bits]
  exact nearestEven_two_pow positive (Nat.sub_le k 52)

/-- **What is rounded stays as it is.** -/
theorem roundSteps_roundSteps {den : Nat} (positive : 0 < den) (num : Nat) :
    roundSteps (roundSteps num den) 1 = roundSteps num den := by
  refine roundSteps_of_dvd ?_
  -- Rounding goes up to the next power of two at most.
  have bound : roundSteps num den ≤ Nat.pow 2 ((num / den).log2 + 1) := by
    have below : num ≤ Nat.pow 2 ((num / den).log2 + 1) * den :=
      Nat.le_of_lt ((Nat.div_lt_iff_lt_mul positive).1 Nat.lt_log2_self)
    calc roundSteps num den
      _ ≤ roundSteps (Nat.pow 2 ((num / den).log2 + 1) * den) den := roundSteps_mono positive below
      _ = Nat.pow 2 ((num / den).log2 + 1) := roundSteps_two_pow positive _
  rcases Nat.lt_or_eq_of_le bound with inside | top
  · have bits : (roundSteps num den).log2 - 52 ≤ (num / den).log2 - 52 := by
      by_cases zero : roundSteps num den = 0
      · rw [zero, Nat.log2_zero]
        omega
      · have := (Nat.log2_lt zero).2 inside
        omega
    exact Nat.dvd_trans (Nat.pow_dvd_pow 2 bits) (Nat.dvd_mul_left _ _)
  · have bits : (Nat.pow 2 ((num / den).log2 + 1)).log2 = (num / den).log2 + 1 := Nat.log2_two_pow
    rw [top, bits]
    exact Nat.pow_dvd_pow 2 (Nat.sub_le _ 52)

/-! ### Numbers that the format holds -/

/-- **A number of the format:** its steps have at most 53 significant bits and are not too many. -/
def Held (n : Number) : Prop :=
  ∀ k, n = finite k → roundSteps k.natAbs 1 = k.natAbs ∧ k.natAbs < topSteps

theorem held_zero : Held (finite 0) := by
  intro k same
  cases same
  exact ⟨roundSteps_of_dvd (Nat.dvd_zero _), Nat.two_pow_pos 2098⟩

theorem held_infinite (negative : Bool) : Held (infinite negative) := by
  intro k same
  cases same

theorem held_ofQuotient (negative : Bool) {den : Nat} (positive : 0 < den) (num : Nat) :
    Held (ofQuotient negative num den) := by
  by_cases fits : roundSteps num den < topSteps
  · have size : (if negative then -(roundSteps num den : Int) else roundSteps num den).natAbs =
        roundSteps num den := by
      split
      · rw [Int.natAbs_neg, Int.natAbs_natCast]
      · exact Int.natAbs_natCast _
    rw [ofQuotient_of_fits negative fits]
    intro k same
    cases same
    rw [size]
    exact ⟨roundSteps_roundSteps positive num, fits⟩
  · rw [ofQuotient_of_overflow negative fits]
    exact held_infinite negative

/-- Both ways of reading a decimal, as one quotient. -/
theorem ofExactDecimal_eq (negative : Bool) (digits : Nat) (exponent : Int) :
    ofExactDecimal negative digits exponent =
      ofQuotient negative (digits * 10 ^ exponent.toNat * scale) (10 ^ (-exponent).toNat) := by
  rw [ofExactDecimal]
  split
  · rename_i up
    have none : (-exponent).toNat = 0 := by omega
    rw [none]
    rfl
  · rename_i down
    have none : exponent.toNat = 0 := by omega
    rw [none, Nat.pow_zero, Nat.mul_one]
    rfl

theorem held_ofDecimal (negative : Bool) (digits : Nat) (exponent : Int) :
    Held (ofDecimal negative digits exponent) := by
  have exact : Held (ofExactDecimal negative digits exponent) := by
    rw [ofExactDecimal_eq]
    exact held_ofQuotient negative (Nat.pow_pos (by decide)) _
  rw [ofDecimal]
  dsimp only
  split
  · exact held_zero
  · split
    · exact held_infinite negative
    · split
      · exact held_zero
      · exact exact

theorem ofDecimal_true (digits : Nat) (exponent : Int) :
    ofDecimal true digits exponent = neg (ofDecimal false digits exponent) := by
  have exact : ofExactDecimal true digits exponent = neg (ofExactDecimal false digits exponent) := by
    rw [ofExactDecimal_eq, ofExactDecimal_eq, ofQuotient_true]
  rw [ofDecimal, ofDecimal]
  dsimp only
  split
  · rfl
  · split
    · rfl
    · split
      · rfl
      · exact exact

/-! ### Decimal digits -/

/-- The decimal digits of a number. -/
abbrev digitsOf (n : Nat) : List Char := (toString n).toList

theorem digitsOf_eq (n : Nat) : digitsOf n = Nat.toDigits 10 n := by
  rw [digitsOf, Nat.toString_eq_ofList_toDigits, String.toList_ofList]

theorem length_digitsOf (n : Nat) : (toString n).length = (digitsOf n).length := String.length_toList.symm

theorem isDigit_of_mem_digitsOf {n : Nat} {c : Char} (member : c ∈ digitsOf n) : c.isDigit = true := by
  rw [digitsOf_eq] at member
  exact Nat.isDigit_of_mem_toDigits (by decide) (by decide) member

theorem digit?_of_isDigit {c : Char} (digit : c.isDigit = true) : digit? 10 c = some (c.toNat - 48) := by
  have bounds : '0' ≤ c ∧ c ≤ '9' := by
    simp only [Char.isDigit, Bool.and_eq_true, decide_eq_true_eq] at digit
    exact digit
  have small : c.toNat - 48 < 10 := by
    have top : c.toNat ≤ 57 := bounds.2
    omega
  rw [digit?, if_pos bounds]
  exact if_pos small

theorem digitsValue_append (cs ds : List Char) :
    digitsValue 10 (cs ++ ds) = ds.foldl (fun n c => n * 10 + (digit? 10 c).getD 0) (digitsValue 10 cs) :=
  List.foldl_append

theorem digitsValue_concat (cs : List Char) {c : Char} (digit : c.isDigit = true) :
    digitsValue 10 (cs ++ [c]) = digitsValue 10 cs * 10 + (c.toNat - 48) := by
  rw [digitsValue_append, List.foldl_cons, List.foldl_nil, digit?_of_isDigit digit]
  rfl

/-- Zeros at the end multiply. -/
theorem digitsValue_append_zeros (cs : List Char) (z : Nat) :
    digitsValue 10 (cs ++ List.replicate z '0') = digitsValue 10 cs * 10 ^ z := by
  induction z with
  | zero => rw [List.replicate_zero, List.append_nil, Nat.pow_zero, Nat.mul_one]
  | succ z ih =>
    rw [List.replicate_succ', ← List.append_assoc, digitsValue_concat _ (by decide), ih, Nat.pow_succ,
      Nat.mul_assoc]
    rfl

/-- Zeros at the start do not count. -/
theorem digitsValue_zeros_append (z : Nat) (cs : List Char) :
    digitsValue 10 (List.replicate z '0' ++ cs) = digitsValue 10 cs := by
  have zeros : digitsValue 10 (List.replicate z '0') = 0 := by
    have from_none := digitsValue_append_zeros [] z
    rwa [List.nil_append, show digitsValue 10 [] = 0 from rfl, Nat.zero_mul] at from_none
  rw [digitsValue_append, zeros]
  rfl

theorem digitsValue_digitsOf (n : Nat) : digitsValue 10 (digitsOf n) = n := by
  have one_by_one : ∀ (cs : List Char) (start : Nat), (∀ c ∈ cs, c.isDigit = true) →
      cs.foldl (fun n c => n * 10 + (digit? 10 c).getD 0) start = Nat.ofDigitChars 10 cs start := by
    intro cs
    induction cs with
    | nil => exact fun _ _ => rfl
    | cons c cs ih =>
      intro start digits
      rw [List.foldl_cons, Nat.ofDigitChars_cons, digit?_of_isDigit (digits c List.mem_cons_self),
        ih _ fun d member => digits d (List.mem_cons_of_mem _ member), Nat.mul_comm 10 start]
      rfl
  have value := one_by_one (digitsOf n) 0 fun c member => isDigit_of_mem_digitsOf member
  rw [digitsOf_eq, Nat.ofDigitChars_ten_toDigits, ← digitsOf_eq] at value
  exact value

theorem digitsOf_mul_ten {n : Nat} (positive : n ≠ 0) : digitsOf (n * 10) = digitsOf n ++ ['0'] := by
  have one_more := Nat.toDigits_append_toDigits (b := 10) (n := n) (d := 0) (by decide)
    (Nat.pos_of_ne_zero positive) (by decide)
  rw [digitsOf_eq, digitsOf_eq, Nat.mul_comm, ← Nat.add_zero (10 * n), ← one_more]
  rfl

theorem length_digitsOf_mul_pow {n : Nat} (positive : n ≠ 0) (z : Nat) :
    (digitsOf (n * 10 ^ z)).length = (digitsOf n).length + z := by
  induction z with
  | zero => rw [Nat.pow_zero, Nat.mul_one, Nat.add_zero]
  | succ z ih =>
    have still : n * 10 ^ z ≠ 0 := Nat.mul_ne_zero positive (Nat.pos_iff_ne_zero.1 (Nat.pow_pos (by decide)))
    rw [Nat.pow_succ, ← Nat.mul_assoc, digitsOf_mul_ten still, List.length_append, ih]
    rfl

/-- The first digit of a positive number is not zero. -/
theorem head?_digitsOf_ne_zero {n : Nat} (positive : n ≠ 0) : (digitsOf n).head? ≠ some '0' := by
  rw [digitsOf_eq]
  induction n using Nat.strongRecOn with
  | _ n ih =>
    by_cases single : n < 10
    · rw [Nat.toDigits_of_lt_base single]
      have digits : ∀ m < 10, m ≠ 0 → [Nat.digitChar m].head? ≠ some '0' := by decide
      exact digits n single positive
    · have more : n / 10 ≠ 0 := by omega
      rw [Nat.toDigits_of_base_le (by decide) (by omega), List.head?_append]
      intro zero
      rcases Option.or_eq_some_iff.1 zero with first | ⟨none, -⟩
      · exact ih (n / 10) (by omega) more first
      · exact Nat.toDigits_ne_nil (List.head?_eq_none_iff.1 none)

/-! ### Decimals of one value -/

/-- **Zeros at the end of the digits go into the exponent.** -/
theorem ofDecimal_mul_pow (negative : Bool) (n z : Nat) (exponent : Int) :
    ofDecimal negative (n * 10 ^ z) exponent = ofDecimal negative n (exponent + z) := by
  by_cases zero : n = 0
  · rw [zero, Nat.zero_mul, ofDecimal, ofDecimal, if_pos rfl, if_pos rfl]
  have still : n * 10 ^ z ≠ 0 := Nat.mul_ne_zero zero (Nat.pos_iff_ne_zero.1 (Nat.pow_pos (by decide)))
  have point : ((toString (n * 10 ^ z)).length : Int) + exponent =
      (toString n).length + (exponent + z) := by
    rw [length_digitsOf, length_digitsOf, length_digitsOf_mul_pow zero z]
    omega
  have exact : ofExactDecimal negative (n * 10 ^ z) exponent = ofExactDecimal negative n (exponent + z) := by
    rw [ofExactDecimal_eq, ofExactDecimal_eq]
    refine ofQuotient_congr negative (Nat.pow_pos (by decide)) (Nat.pow_pos (by decide)) ?_
    have exponents : z + exponent.toNat + (-(exponent + z)).toNat =
        (exponent + z).toNat + (-exponent).toNat := by omega
    generalize scale = unit
    calc n * 10 ^ z * 10 ^ exponent.toNat * unit * 10 ^ (-(exponent + z)).toNat
      _ = n * unit * 10 ^ (z + exponent.toNat + (-(exponent + z)).toNat) := by
        rw [Nat.pow_add, Nat.pow_add]
        ac_rfl
      _ = n * 10 ^ (exponent + z).toNat * unit * 10 ^ (-exponent).toNat := by
        rw [exponents, Nat.pow_add]
        ac_rfl
  rw [ofDecimal, ofDecimal, if_neg still, if_neg zero, exact]
  dsimp only
  rw [point]

end Number

namespace Decimal

open Number

/-! ### The decimal that is chosen -/

theorem length_digitsOf_le {n k : Nat} (positive : 0 < k) (small : n < 10 ^ k) : (digitsOf n).length ≤ k := by
  rw [digitsOf_eq]
  exact (Nat.length_toDigits_le_iff (by decide) positive).2 small

/-- **The exact decimal reads back.** -/
theorem exact_reads {k : Nat} (positive : k ≠ 0) (held : Held (.finite k)) :
    ofDecimal false (exact k).digits (exact k).exponent = .finite k := by
  obtain ⟨rounded, fits⟩ := held k rfl
  rw [Int.natAbs_natCast] at rounded fits
  have two_five : Nat.pow 5 1074 * scale = 10 ^ 1074 := by decide +kernel
  have fives : ∀ n, 0 < Nat.pow 5 n := fun n => Nat.pow_pos (by decide)
  have some_digits : k * Nat.pow 5 1074 ≠ 0 := Nat.mul_ne_zero positive (Nat.pos_iff_ne_zero.1 (fives 1074))
  -- Neither end of the range is near: there are between 700 and 1400 digits.
  have many : 700 < (toString (k * Nat.pow 5 1074)).length := by
    have large : ¬k * Nat.pow 5 1074 < 10 ^ 700 := by
      have many_fives : 10 ^ 700 ≤ Nat.pow 5 1074 := by decide +kernel
      exact Nat.not_lt.2 (Nat.le_trans many_fives (Nat.le_mul_of_pos_left _ (Nat.pos_of_ne_zero positive)))
    rw [length_digitsOf, digitsOf_eq]
    refine Nat.not_le.1 fun few => large ?_
    exact (Nat.length_toDigits_le_iff (by decide) (by decide)).1 few
  have few : (toString (k * Nat.pow 5 1074)).length ≤ 1400 := by
    rw [length_digitsOf]
    refine length_digitsOf_le (by decide) ?_
    have top : topSteps * Nat.pow 5 1074 ≤ 10 ^ 1400 := by decide +kernel
    exact Nat.lt_of_lt_of_le (Nat.mul_lt_mul_of_pos_right fits (fives 1074)) top
  have read : ofExactDecimal false (k * Nat.pow 5 1074) (-1074) = .finite k := by
    have tens : ∀ n, 0 < 10 ^ n := fun n => Nat.pow_pos (by decide)
    have value : ofQuotient false (k * Nat.pow 5 1074 * scale) (10 ^ 1074) = ofQuotient false k 1 := by
      refine ofQuotient_congr false (tens 1074) Nat.one_pos ?_
      rw [Nat.mul_one, Nat.mul_assoc, two_five]
    have up : Int.toNat (-1074) = 0 := rfl
    have down : Int.toNat (- -1074) = 1074 := rfl
    rw [ofExactDecimal_eq, up, down, Nat.pow_zero, Nat.mul_one, value, ofQuotient, rounded]
    exact if_pos fits
  rw [exact, ofDecimal, if_neg some_digits]
  dsimp only
  rw [if_neg (by omega), if_neg (by omega), read]

theorem ofDigits?_reads {k count : Nat} {d : Decimal} (found : ofDigits? k count = some d) :
    ofDecimal false d.digits d.exponent = .finite k := by
  rw [ofDigits?] at found
  obtain ⟨digits, hit, rfl⟩ := Option.map_eq_some_iff.1 found
  have read := List.find?_some hit
  exact of_decide_eq_true read

/-- One digit is as short as it gets. -/
theorem shortest_of_ofDigits? {k : Nat} {d : Decimal} (found : ofDigits? k 1 = some d) : shortest k = d := by
  have head : ∀ {f : Nat → Option Decimal}, f 0 = some d → (List.range 17).findSome? f = some d := by
    intro f hit
    rw [List.range_succ_eq_map, List.findSome?_cons, hit]
  have first : (List.range 17).findSome? (fun n => ofDigits? k (n + 1)) = some d := head found
  rw [shortest, first, Option.getD_some]

/-- **The shortest decimal reads back.** -/
theorem shortest_reads {k : Nat} (positive : k ≠ 0) (held : Held (.finite k)) :
    ofDecimal false (shortest k).digits (shortest k).exponent = .finite k := by
  rw [shortest]
  cases found : (List.range 17).findSome? fun n => ofDigits? k (n + 1) with
  | none => exact exact_reads positive held
  | some d =>
    obtain ⟨n, -, hit⟩ := List.exists_of_findSome?_eq_some found
    exact ofDigits?_reads hit

/-- Without the zeros at its end, a decimal has fewer digits and the same point. -/
theorem significant_eq (d : Decimal) :
    ∃ z, digitsOf d.digits = d.significant ++ List.replicate z '0' := by
  refine ⟨((digitsOf d.digits).reverse.takeWhile (· = '0')).length, ?_⟩
  have zeros : (digitsOf d.digits).reverse.takeWhile (· = '0') =
      List.replicate ((digitsOf d.digits).reverse.takeWhile (· = '0')).length '0' := by
    refine List.eq_replicate_iff.2 ⟨rfl, fun c member => ?_⟩
    exact of_decide_eq_true (List.all_eq_true.1 List.all_takeWhile c member)
  have whole := List.takeWhile_append_dropWhile (p := (· = '0')) (l := (digitsOf d.digits).reverse)
  calc digitsOf d.digits
    _ = (digitsOf d.digits).reverse.reverse := List.reverse_reverse _ |>.symm
    _ = (List.takeWhile (· = '0') (digitsOf d.digits).reverse ++
        List.dropWhile (· = '0') (digitsOf d.digits).reverse).reverse := by rw [whole]
    _ = d.significant ++ List.replicate _ '0' := by
      rw [List.reverse_append, zeros, List.reverse_replicate, List.length_replicate]
      rfl


theorem significant_ne_nil {d : Decimal} (positive : d.digits ≠ 0) : d.significant ≠ [] := by
  intro none
  obtain ⟨z, digits⟩ := significant_eq d
  have value := digitsValue_digitsOf d.digits
  rw [digits, none, digitsValue_append_zeros] at value
  exact positive (value.symm.trans (Nat.zero_mul _))

theorem isDigit_of_mem_significant {d : Decimal} : ∀ c ∈ d.significant, c.isDigit = true := by
  intro c member
  obtain ⟨z, digits⟩ := significant_eq d
  refine isDigit_of_mem_digitsOf (n := d.digits) ?_
  rw [digits]
  exact List.mem_append_left _ member

theorem head?_significant {d : Decimal} (positive : d.digits ≠ 0) : d.significant.head? ≠ some '0' := by
  obtain ⟨z, digits⟩ := significant_eq d
  obtain ⟨c, cs, first⟩ := List.exists_cons_of_ne_nil (significant_ne_nil positive)
  have leading := head?_digitsOf_ne_zero positive
  rw [digits, first] at leading
  rw [first]
  exact leading

/-- **The significant digits read back** at the place where the point is. -/
theorem ofDecimal_significant (negative : Bool) (d : Decimal) :
    ofDecimal negative (digitsValue 10 d.significant)
        ((toString d.digits).length + d.exponent - d.significant.length) =
      ofDecimal negative d.digits d.exponent := by
  obtain ⟨z, digits⟩ := significant_eq d
  have value : d.digits = digitsValue 10 d.significant * 10 ^ z := by
    rw [← digitsValue_append_zeros, ← digits, digitsValue_digitsOf]
  have length : (toString d.digits).length = d.significant.length + z := by
    rw [length_digitsOf, digits, List.length_append, List.length_replicate]
  have point : ((toString d.digits).length : Int) + d.exponent - d.significant.length = d.exponent + z := by
    rw [length]
    omega
  rw [point, ← ofDecimal_mul_pow, ← value]

end Decimal

end BearerGate
