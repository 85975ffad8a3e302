import BearerGate.Schema.Value

/-!
# Values that pass their checks

What is known of a value that has been found fine: checks that are put together are fine only if all of them are,
with their values put together, and a number is fine only if it breaks no bound.
-/

namespace BearerGate

/-! ### Checks that are put together -/

section Together

variable {α β γ : Type}

/-- A check and another one that are both fine. -/
theorem fine_of_seq {x : Checked (α → β)} {y : Checked α} {b : β} (fine : x <*> y = .fine b) :
    ∃ f a, x = .fine f ∧ y = .fine a ∧ b = f a := by
  change Checked.seq x (fun _ => y) = .fine b at fine
  cases x with
  | faulty first others => cases y <;> cases fine
  | fine f =>
    cases y with
    | faulty first others => cases fine
    | fine a =>
      cases fine
      exact ⟨f, a, rfl, rfl, rfl⟩

/-- Two checks that are both fine. -/
theorem fine_of_map_seq {f : α → β → γ} {x : Checked α} {y : Checked β} {c : γ}
    (fine : f <$> x <*> y = .fine c) : ∃ a b, x = .fine a ∧ y = .fine b ∧ c = f a b := by
  change Checked.seq (Checked.seq (.fine f) fun _ => x) (fun _ => y) = .fine c at fine
  cases x with
  | faulty first others => cases y <;> cases fine
  | fine a =>
    cases y with
    | faulty first others => cases fine
    | fine b =>
      cases fine
      exact ⟨a, b, rfl, rfl, rfl⟩

/-- A list whose members are all fine. -/
theorem map_eq_of_forAll {f : α → Checked β} {as : List α} {bs : List β} (fine : Checked.forAll f as = .fine bs) :
    as.map f = bs.map .fine := by
  induction as generalizing bs with
  | nil =>
    cases fine
    rfl
  | cons a as ih =>
    obtain ⟨b, rest, first, others, rfl⟩ := fine_of_map_seq fine
    rw [List.map_cons, List.map_cons, first, ih others]

/-- What comes of a list is what comes of its members. -/
theorem exists_of_forAll {f : α → Checked β} {as : List α} {bs : List β} (fine : Checked.forAll f as = .fine bs)
    {b : β} (member : b ∈ bs) : ∃ a ∈ as, f a = .fine b := by
  have there : Checked.fine b ∈ bs.map .fine := List.mem_map_of_mem member
  rw [← map_eq_of_forAll fine] at there
  exact List.mem_map.1 there

end Together

/-! ### Numbers -/

/-- A number within bounds is a number that has no issue. -/
theorem eq_of_bounded_eq_fine {path : List PathStep} {bounds : List Checked.NumberBound} {n m : Number}
    (fine : Checked.bounded path bounds n = .fine m) :
    m = n ∧ n ≠ .nan ∧ ∀ b ∈ bounds, b.issue? n = none := by
  unfold Checked.bounded at fine
  split at fine
  · cases fine
  · rename_i ordered
    cases faults : (bounds.filterMap (Checked.NumberBound.issue? n)).map fun kind => (⟨path, kind, none⟩ : Issue) with
    | cons first others =>
      rw [faults] at fine
      cases fine
    | nil =>
      rw [faults] at fine
      cases fine
      refine ⟨rfl, ordered, fun b member => ?_⟩
      have nothing := List.filterMap_eq_nil_iff.1 (List.map_eq_nil_iff.1 faults)
      exact nothing b member

theorem issue?_nonnegative {n : Number} : Checked.NumberBound.nonnegative.issue? n = none ↔ 0 ≤ n := by
  simp only [Checked.NumberBound.issue?, ite_eq_left_iff, reduceCtorEq, imp_false, Classical.not_not]

theorem issue?_positive {n : Number} : Checked.NumberBound.positive.issue? n = none ↔ 0 < n := by
  simp only [Checked.NumberBound.issue?, ite_eq_left_iff, reduceCtorEq, imp_false, Classical.not_not]

theorem issue?_whole {n : Number} : Checked.NumberBound.whole.issue? n = none ↔ n.isInteger = true := by
  simp only [Checked.NumberBound.issue?, ite_eq_left_iff, reduceCtorEq, imp_false, Classical.not_not]

end BearerGate
