import BearerGate.Json.Parser
import BearerGate.Json.Printer
import BearerGate.Proofs.Number.Decimal

/-!
# The text of a number reads back

A number of the format is written so that it reads back as that number, whatever stands after it, as long
as that does not go on with the number (`Json.takeNumber?_render`).  The text is digits, perhaps a point with
digits, perhaps an exponent; `Decimal.LaidOut` says what such a text stands for, wherever a layout has put the
point.
-/

namespace BearerGate

/-! ### Reading what is laid out -/

namespace Number

/-- A fraction with its point, or nothing. -/
def pointed (fraction : List Char) : List Char := if fraction = [] then [] else '.' :: fraction

/-- An exponent as it is written, or nothing. -/
def scaled : Option Int → List Char
  | none => []
  | some e => 'e' :: (if e < 0 then '-' else '+') :: digitsOf e.natAbs

/-- Whether a character could go on with a number. -/
def continues (c : Char) : Bool := c.isDigit || c = '.' || c = 'e' || c = 'E'

/-- A text that does not go on with a number. -/
def Stops (rest : List Char) : Prop := ∀ c ∈ rest.head?, continues c = false

theorem stops_nil : Stops [] := by
  intro c first
  cases first

theorem stops_cons {c : Char} (stop : continues c = false) (cs : List Char) : Stops (c :: cs) := by
  intro d first
  cases first
  exact stop

theorem takeWhile_isDigit {ds rest : List Char} (digits : ∀ d ∈ ds, d.isDigit = true)
    (stops : ∀ c ∈ rest.head?, c.isDigit = false) :
    (ds ++ rest).takeWhile Char.isDigit = ds ∧ (ds ++ rest).dropWhile Char.isDigit = rest := by
  rw [List.takeWhile_append_of_pos digits, List.dropWhile_append_of_pos digits]
  cases rest with
  | nil => simp
  | cons c rest =>
    have stop : c.isDigit = false := stops c rfl
    simp [stop]

theorem not_isDigit_of_stops {rest : List Char} (stops : Stops rest) : ∀ c ∈ rest.head?, c.isDigit = false := by
  intro c first
  have stop := stops c first
  simp only [continues, Bool.or_eq_false_iff] at stop
  exact stop.1.1.1

end Number

namespace Json

open Number

theorem takeExponent?_scaled (exponent : Option Int) {rest : List Char} (stops : Stops rest) :
    takeExponent? (scaled exponent ++ rest) = some (exponent.getD 0, rest) := by
  cases exponent with
  | none =>
    cases rest with
    | nil => rfl
    | cons c rest =>
      have stop := stops c rfl
      simp only [continues, Bool.or_eq_false_iff, decide_eq_false_iff_not] at stop
      have other : ¬(c = 'e' ∨ c = 'E') := fun one => one.elim stop.1.2 stop.2
      rw [scaled, List.nil_append, takeExponent?, if_neg other]
      rfl
  | some e =>
    have digits := takeWhile_isDigit
      (fun d member => isDigit_of_mem_digitsOf (n := e.natAbs) member) (not_isDigit_of_stops stops)
    have some_digits : digitsOf e.natAbs ≠ [] := by
      rw [digitsOf_eq]
      exact Nat.toDigits_ne_nil
    rw [scaled, List.cons_append, List.cons_append, takeExponent?, if_pos (.inl rfl)]
    by_cases negative : e < 0
    · have sign : takeSign ((if e < 0 then '-' else '+') :: (digitsOf e.natAbs ++ rest)) =
          (true, digitsOf e.natAbs ++ rest) := by rw [if_pos negative]; rfl
      rw [sign]
      dsimp only
      rw [digits.1, digits.2, if_neg some_digits, digitsValue_digitsOf, if_pos rfl, Option.getD_some]
      congr 2
      omega
    · have sign : takeSign ((if e < 0 then '-' else '+') :: (digitsOf e.natAbs ++ rest)) =
          (false, digitsOf e.natAbs ++ rest) := by rw [if_neg negative]; rfl
      rw [sign]
      dsimp only
      rw [digits.1, digits.2, if_neg some_digits, digitsValue_digitsOf, if_neg Bool.false_ne_true,
        Option.getD_some]
      congr 2
      omega

theorem stops_scaled (exponent : Option Int) {rest : List Char} (stops : Stops rest) :
    ∀ c ∈ (scaled exponent ++ rest).head?, c.isDigit = false ∧ c ≠ '.' := by
  intro c first
  cases exponent with
  | none =>
    have stop := stops c first
    simp only [continues, Bool.or_eq_false_iff, decide_eq_false_iff_not] at stop
    exact ⟨stop.1.1.1, stop.1.1.2⟩
  | some e =>
    cases first
    exact ⟨by decide, by decide⟩

theorem takeFraction?_pointed {fraction rest : List Char} (digits : ∀ d ∈ fraction, d.isDigit = true)
    (stops : ∀ c ∈ rest.head?, c.isDigit = false ∧ c ≠ '.') :
    takeFraction? (pointed fraction ++ rest) = some (fraction, rest) := by
  by_cases empty : fraction = []
  · subst empty
    rw [pointed, if_pos rfl, List.nil_append]
    unfold takeFraction?
    split
    · exact absurd rfl (stops '.' rfl).2
    · rfl
  · have cut := takeWhile_isDigit digits fun c first => (stops c first).1
    simp only [pointed, if_neg empty, List.cons_append, takeFraction?, cut.1, cut.2]

/-- **A number is read part by part.** -/
theorem takeUnsigned?_parts (negative : Bool) {whole fraction rest : List Char} {exponent : Option Int}
    (whole_digits : ∀ d ∈ whole, d.isDigit = true) (whole_ne : whole ≠ [])
    (leading : whole.head? = some '0' → whole.length = 1)
    (fraction_digits : ∀ d ∈ fraction, d.isDigit = true) (stops : Stops rest) :
    takeUnsigned? negative (whole ++ (pointed fraction ++ (scaled exponent ++ rest))) =
      some (ofDecimal negative (digitsValue 10 (whole ++ fraction)) (exponent.getD 0 - fraction.length),
        rest) := by
  have after := stops_scaled exponent stops
  have behind : ∀ c ∈ (pointed fraction ++ (scaled exponent ++ rest)).head?, c.isDigit = false := by
    intro c first
    by_cases empty : fraction = []
    · rw [pointed, if_pos empty, List.nil_append] at first
      exact (after c first).1
    · rw [pointed, if_neg empty] at first
      cases first
      decide
  have cut := takeWhile_isDigit whole_digits behind
  have proper : ¬(whole = [] ∨ (whole.head? = some '0' ∧ whole.length ≠ 1)) := by
    rintro (none | ⟨zero, more⟩)
    · exact whole_ne none
    · exact more (leading zero)
  simp only [takeUnsigned?, cut.1, cut.2, if_neg proper, takeFraction?_pointed fraction_digits after,
    takeExponent?_scaled exponent stops]

end Json

namespace Decimal

open Number

/-- **What a layout says:** digits before the point, digits after it and an exponent, which together stand
for the digits that were laid out, with their point in its place. -/
structure LaidOut (digits : List Char) (point : Int) (whole fraction : List Char) (exponent : Option Int) :
    Prop where
  text : layOut digits point = whole ++ (pointed fraction ++ scaled exponent)
  whole_digits : ∀ d ∈ whole, d.isDigit = true
  whole_ne : whole ≠ []
  leading : whole.head? = some '0' → whole.length = 1
  fraction_digits : ∀ d ∈ fraction, d.isDigit = true
  value : ∀ negative, ofDecimal negative (digitsValue 10 (whole ++ fraction))
    (exponent.getD 0 - fraction.length) = ofDecimal negative (digitsValue 10 digits) (point - digits.length)

theorem isDigit_of_mem_zeros {n : Nat} : ∀ d ∈ List.replicate n '0', d.isDigit = true := by
  intro d member
  rw [List.eq_of_mem_replicate member]
  decide

/-- **Every layout says something:** one case for each of the four. -/
theorem exists_laidOut {digits : List Char} (all : ∀ d ∈ digits, d.isDigit = true) (filled : digits ≠ [])
    (leading : digits.head? ≠ some '0') (point : Int) :
    ∃ whole fraction exponent, LaidOut digits point whole fraction exponent := by
  obtain ⟨first, others, rfl⟩ := List.exists_cons_of_ne_nil filled
  have nonzero : first ≠ '0' := fun zero => leading (congrArg some zero)
  generalize shape : first :: others = digits at all
  have start : digits.head? = some first := by rw [← shape]; rfl
  by_cases positional : (digits.length : Int) ≤ point ∧ point ≤ 21
  · -- A whole number, with zeros up to the point.
    refine ⟨digits ++ List.replicate (point - digits.length).toNat '0', [], none, ?_, ?_, ?_, ?_, ?_, ?_⟩
    · rw [layOut]
      dsimp only
      rw [if_pos positional]
      simp [pointed, scaled]
    · intro d member
      exact (List.mem_append.1 member).elim (all d) (isDigit_of_mem_zeros d)
    · rw [← shape]
      exact List.cons_ne_nil _ _
    · intro zero
      rw [List.head?_append, start] at zero
      cases zero
      exact absurd rfl nonzero
    · intro d member
      cases member
    · intro negative
      rw [List.append_nil, digitsValue_append_zeros, ofDecimal_mul_pow]
      congr 1
      simp only [Option.getD_none, List.length_nil]
      omega
  by_cases inside : 0 < point ∧ point ≤ 21
  · -- The point stands between the digits.
    have short : point.toNat < digits.length := by omega
    refine ⟨digits.take point.toNat, digits.drop point.toNat, none, ?_, ?_, ?_, ?_, ?_, ?_⟩
    · rw [layOut]
      dsimp only
      have some_left : digits.drop point.toNat ≠ [] := by
        intro none
        have := List.drop_eq_nil_iff.1 none
        omega
      rw [if_neg positional, if_pos inside, pointed, if_neg some_left, scaled, List.append_nil]
    · exact fun d member => all d (List.mem_of_mem_take member)
    · intro none
      rcases List.take_eq_nil_iff.1 none with zero | empty
      · omega
      · rw [← shape] at empty
        cases empty
    · intro zero
      have kept : (digits.take point.toNat).head? = some first := by
        rw [List.head?_take, if_neg (by omega), start]
      rw [kept] at zero
      cases zero
      exact absurd rfl nonzero
    · exact fun d member => all d (List.mem_of_mem_drop member)
    · intro negative
      rw [List.take_append_drop]
      congr 1
      simp only [Option.getD_none, List.length_drop]
      omega
  by_cases small : -6 < point ∧ point ≤ 0
  · -- Zeros stand between the point and the digits.
    refine ⟨['0'], List.replicate (-point).toNat '0' ++ digits, none, ?_, ?_, ?_, ?_, ?_, ?_⟩
    · rw [layOut]
      dsimp only
      have filled_up : List.replicate (-point).toNat '0' ++ digits ≠ [] := by
        rw [← shape]
        exact List.append_ne_nil_of_right_ne_nil _ (List.cons_ne_nil _ _)
      rw [if_neg positional, if_neg inside, if_pos small, pointed, if_neg filled_up, scaled,
        List.append_nil]
      rfl
    · intro d member
      rw [List.mem_singleton.1 member]
      decide
    · exact List.cons_ne_nil _ _
    · exact fun _ => rfl
    · intro d member
      exact (List.mem_append.1 member).elim (isDigit_of_mem_zeros d) (all d)
    · intro negative
      have zeros : ['0'] ++ (List.replicate (-point).toNat '0' ++ digits) =
          List.replicate ((-point).toNat + 1) '0' ++ digits := by
        rw [List.replicate_succ]
        rfl
      rw [zeros, digitsValue_zeros_append]
      congr 1
      simp only [Option.getD_none, List.length_append, List.length_replicate]
      omega
  · -- The point stands after the first digit, and an exponent says where it belongs.
    refine ⟨[first], others, some (point - 1), ?_, ?_, ?_, ?_, ?_, ?_⟩
    · rw [layOut]
      dsimp only
      rw [if_neg positional, if_neg inside, if_neg small, ← shape]
      cases others with
      | nil => rfl
      | cons second others => rfl
    · intro d member
      refine all d ?_
      rw [List.mem_singleton.1 member, ← shape]
      exact List.mem_cons_self
    · exact List.cons_ne_nil _ _
    · exact fun _ => rfl
    · intro d member
      refine all d ?_
      rw [← shape]
      exact List.mem_cons_of_mem _ member
    · intro negative
      rw [← shape, List.singleton_append]
      congr 1
      simp only [Option.getD_some, List.length_cons]
      omega

/-- The decimal that is chosen for a positive count of steps has a digit other than zero. -/
theorem digits_shortest_ne_zero {k : Nat} (positive : k ≠ 0) : (shortest k).digits ≠ 0 := by
  rw [shortest]
  cases found : (List.range 17).findSome? fun n => ofDigits? k (n + 1) with
  | none =>
    have power : ∀ n, Nat.pow 5 n ≠ 0 := fun n => Nat.ne_of_gt (Nat.pow_pos (by decide))
    exact Nat.mul_ne_zero positive (power 1074)
  | some d =>
    obtain ⟨n, -, hit⟩ := List.exists_of_findSome?_eq_some found
    intro zero
    have read := ofDigits?_reads hit
    rw [show d.digits = 0 from zero, ofDecimal, if_pos rfl] at read
    cases read
    exact positive rfl

/-- What the text of a positive count of steps says. -/
theorem exists_laidOut_renderSteps {k : Nat} (positive : k ≠ 0) : ∃ whole fraction exponent,
    LaidOut (shortest k).significant ((toString (shortest k).digits).length + (shortest k).exponent)
      whole fraction exponent :=
  exists_laidOut isDigit_of_mem_significant (significant_ne_nil (digits_shortest_ne_zero positive))
    (head?_significant (digits_shortest_ne_zero positive)) _

/-- The text of a positive count of steps has a character, and nothing in it but digits, a point and an
exponent. -/
theorem renderSteps_chars {k : Nat} (positive : k ≠ 0) :
    renderSteps k ≠ [] ∧ ∀ c ∈ renderSteps k, c.isDigit = true ∨ c ∈ ['.', 'e', '+', '-'] := by
  obtain ⟨whole, fraction, exponent, laid⟩ := exists_laidOut_renderSteps positive
  rw [renderSteps, laid.text]
  refine ⟨List.append_ne_nil_of_left_ne_nil laid.whole_ne _, fun c there => ?_⟩
  rcases List.mem_append.1 there with digit | behind
  · exact .inl (laid.whole_digits c digit)
  rcases List.mem_append.1 behind with point | scale
  · unfold pointed at point
    split at point
    · cases point
    · rcases List.mem_cons.1 point with rfl | digit
      · exact .inr (by decide)
      · exact .inl (laid.fraction_digits c digit)
  · cases exponent with
    | none => cases scale
    | some e =>
      rcases List.mem_cons.1 scale with rfl | scale
      · exact .inr (by decide)
      rcases List.mem_cons.1 scale with rfl | digit
      · split <;> exact .inr (by decide)
      · exact .inl (isDigit_of_mem_digitsOf digit)

end Decimal

/-- **The characters of a number's text:** at least one, and each a letter, a digit, a point or a sign. -/
theorem Number.render_chars (n : Number) :
    n.render ≠ "" ∧ ∀ c ∈ n.render.toList, c.isAlphanum = true ∨ c ∈ ['.', '+', '-'] := by
  match n with
  | .nan =>
    change "NaN" ≠ "" ∧ ∀ c ∈ "NaN".toList, _
    simp
  | .infinite false =>
    change "Infinity" ≠ "" ∧ ∀ c ∈ "Infinity".toList, _
    simp
  | .infinite true =>
    change "-Infinity" ≠ "" ∧ ∀ c ∈ "-Infinity".toList, _
    simp
  | .finite steps =>
    rw [render]
    by_cases zero : steps = 0
    · rw [if_pos zero]
      simp
    · have chars := Decimal.renderSteps_chars (Int.natAbs_ne_zero.2 zero)
      have each : ∀ c ∈ Decimal.renderSteps steps.natAbs, c.isAlphanum = true ∨ c ∈ ['.', '+', '-'] := by
        intro c there
        rcases chars.2 c there with digit | mark
        · exact .inl (by rw [Char.isAlphanum, digit, Bool.or_true])
        · simp only [List.mem_cons] at mark
          rcases mark with rfl | rfl | rfl | rfl | none
          · exact .inr (by decide)
          · exact .inl (by decide)
          · exact .inr (by decide)
          · exact .inr (by decide)
          · cases none
      rw [if_neg zero]
      dsimp only
      split
      · refine ⟨by simp, ?_⟩
        simpa using each
      · refine ⟨by simpa using chars.1, ?_⟩
        simpa using each

namespace Json

open Number Decimal

/-- The text of a positive count of steps reads back, with either sign. -/
theorem takeUnsigned?_renderSteps {k : Nat} (positive : k ≠ 0) (held : Held (.finite k)) (negative : Bool)
    {rest : List Char} (stops : Stops rest) :
    takeUnsigned? negative (renderSteps k ++ rest) =
      some (.finite (if negative then -(k : Int) else k), rest) := by
  have read := shortest_reads positive held
  obtain ⟨whole, fraction, exponent, laid⟩ := exists_laidOut_renderSteps positive
  have text : renderSteps k ++ rest = whole ++ (pointed fraction ++ (scaled exponent ++ rest)) := by
    rw [renderSteps, laid.text, List.append_assoc, List.append_assoc]
  rw [text, takeUnsigned?_parts negative laid.whole_digits laid.whole_ne laid.leading laid.fraction_digits
    stops, laid.value, ofDecimal_significant]
  cases negative with
  | false =>
    rw [read]
    rfl
  | true =>
    rw [ofDecimal_true, read]
    rfl

/-- What is read without a sign is read the same as a number. -/
theorem takeNumber?_of_takeUnsigned? {cs : List Char} {read : Number × List Char}
    (unsigned : takeUnsigned? false cs = some read) : takeNumber? cs = some read := by
  unfold takeNumber?
  split
  · cases unsigned
  · exact unsigned

theorem renderNumber_zero : renderNumber (.finite 0) = ['0'] := by
  decide

/-- The text of a number that is not zero: its digits, after a sign if it is negative. -/
theorem renderNumber_finite {k : Int} (nonzero : k ≠ 0) :
    renderNumber (.finite k) = if k < 0 then '-' :: renderSteps k.natAbs else renderSteps k.natAbs := by
  have finite : (Number.finite k).isFinite = true := rfl
  rw [renderNumber, if_pos finite, Number.render, if_neg nonzero, String.toList_ofList]

theorem takeNumber?_zero {rest : List Char} (stops : Stops rest) :
    takeNumber? ('0' :: rest) = some (.finite 0, rest) := by
  have digit : ∀ d ∈ ['0'], d.isDigit = true := by
    intro d member
    rw [List.mem_singleton.1 member]
    rfl
  have none_there : ∀ d ∈ ([] : List Char), d.isDigit = true := by
    intro d member
    cases member
  have read : takeUnsigned? false (['0'] ++ (pointed [] ++ (scaled none ++ rest))) = _ :=
    takeUnsigned?_parts false digit (List.cons_ne_nil _ _) (fun _ => rfl) none_there stops
  have value : digitsValue 10 (['0'] ++ []) = 0 := by decide
  rw [value, ofDecimal, if_pos rfl] at read
  exact takeNumber?_of_takeUnsigned? read

/-- **The text of a number reads back,** whatever stands after it that does not go on with the number. -/
theorem takeNumber?_render {n : Number} (held : Held n) (finite : n.isFinite = true) {rest : List Char}
    (stops : Stops rest) : takeNumber? (renderNumber n ++ rest) = some (n, rest) := by
  obtain ⟨k, rfl⟩ := exists_finite finite
  by_cases zero : k = 0
  · rw [zero, renderNumber_zero]
    exact takeNumber?_zero stops
  have held_size : Held (.finite k.natAbs) := by
    intro k' same
    cases same
    rw [Int.natAbs_natCast]
    exact held k rfl
  have size_ne : k.natAbs ≠ 0 := Int.natAbs_ne_zero.2 zero
  rw [renderNumber_finite zero]
  by_cases negative : k < 0
  · have value : -(k.natAbs : Int) = k := by omega
    have signed := takeUnsigned?_renderSteps size_ne held_size true stops
    rw [if_pos rfl, value] at signed
    rw [if_pos negative, List.cons_append, takeNumber?]
    exact signed
  · have value : (k.natAbs : Int) = k := by omega
    have unsigned := takeUnsigned?_renderSteps size_ne held_size false stops
    rw [if_neg Bool.false_ne_true, value] at unsigned
    rw [if_neg negative]
    exact takeNumber?_of_takeUnsigned? unsigned

end Json

end BearerGate
