import BearerGate.Unicode.Table
import Mathlib.Algebra.Group.Nat.Defs

/-!
# Tables as masks

What a table says of all its characters at once is checked on **masks**: a number stands for the code points whose bits
are set in it, and numbers of this kind are joined and compared as a whole.  A mask has the bits of the runs that it was
made of, and no others (`testBit_span`, `testBit_maskOf`, `CharSet.testBit_mask`, `testBit_sourcesOf`).
-/

namespace BearerGate.Unicode

/-- The mask of all code points from `first` to `last`. -/
def span (first last : Nat) : Nat := (2 ^ (last + 1 - first) - 1) <<< first

theorem testBit_span {first last n : Nat} : (span first last).testBit n = true ↔ first ≤ n ∧ n ≤ last := by
  rw [span, Nat.testBit_shiftLeft, Nat.testBit_two_pow_sub_one, Bool.and_eq_true, decide_eq_true_iff, decide_eq_true_iff]
  omega

/-- The masks of all members of a list together. -/
def joined {α : Type} (mask : α → Nat) (xs : List α) : Nat := xs.foldl (fun m x => m ||| mask x) 0

theorem testBit_joined {α : Type} {mask : α → Nat} {xs : List α} {n : Nat} :
    (joined mask xs).testBit n = true ↔ ∃ x ∈ xs, (mask x).testBit n = true := by
  have onto : ∀ m, (xs.foldl (fun m x => m ||| mask x) m).testBit n = true ↔
      m.testBit n = true ∨ ∃ x ∈ xs, (mask x).testBit n = true := by
    induction xs with
    | nil => simp
    | cons x xs ih =>
      intro m
      rw [List.foldl_cons, ih, Nat.testBit_or, Bool.or_eq_true, or_assoc]
      simp only [List.mem_cons, exists_eq_or_imp]
  rw [joined, onto, Nat.zero_testBit]
  simp

/-- The mask of some code points. -/
def maskOf (ns : List Nat) : Nat := joined (1 <<< ·) ns

theorem testBit_maskOf {ns : List Nat} {n : Nat} : (maskOf ns).testBit n = true ↔ n ∈ ns := by
  have single : ∀ m, (1 <<< m).testBit n = true ↔ m = n := by
    intro m
    rw [Nat.one_shiftLeft, Nat.testBit_two_pow, decide_eq_true_iff]
  rw [maskOf, testBit_joined]
  simp only [single, exists_eq_right]

/-- What has a bit in one mask has it in a mask that holds the first. -/
theorem testBit_of_land_eq {m whole n : Nat} (inside : m &&& whole = m) (there : m.testBit n = true) :
    whole.testBit n = true := by
  rw [← inside, Nat.testBit_and, Bool.and_eq_true] at there
  exact there.2

/-- Masks that share no bit are apart. -/
theorem testBit_eq_false_of_land_eq_zero {m m' n : Nat} (apart : m &&& m' = 0) (there : m.testBit n = true) :
    m'.testBit n = false := by
  have both : (m &&& m').testBit n = false := by rw [apart, Nat.zero_testBit]
  rw [Nat.testBit_and, there, Bool.true_and] at both
  exact both

namespace CharSet

/-- The mask of a set. -/
def mask (s : CharSet) : Nat := joined (fun run => span run.1 run.2) s.runs

theorem testBit_mask (s : CharSet) (c : Char) : s.mask.testBit c.toNat = s.contains c := by
  rw [Bool.eq_iff_iff, mask, testBit_joined, contains, List.any_eq_true]
  simp [testBit_span]

end CharSet

namespace MapRun

/-- The code points that a run maps. -/
def sources (r : MapRun) : List Nat :=
  ((List.range (r.last + 1 - r.first)).filter fun o => o % r.step == 0).map (r.first + ·)

theorem mem_sources {r : MapRun} {n : Nat} :
    n ∈ r.sources ↔ r.first ≤ n ∧ n ≤ r.last ∧ (n - r.first) % r.step = 0 := by
  rw [sources, List.mem_map]
  constructor
  · rintro ⟨o, member, rfl⟩
    rw [List.mem_filter, List.mem_range, beq_iff_eq] at member
    rw [Nat.add_sub_cancel_left]
    omega
  · rintro ⟨least, most, even⟩
    refine ⟨n - r.first, ?_, by omega⟩
    rw [List.mem_filter, List.mem_range, beq_iff_eq]
    exact ⟨by omega, even⟩

/-- What a code point of a run is mapped to. -/
def targets (r : MapRun) (n : Nat) : List Nat := r.target.map (· + (n - r.first))

theorem get?_eq_some_iff {r : MapRun} {c : Char} {cs : List Char} :
    r.get? c = some cs ↔ c.toNat ∈ r.sources ∧ cs = (r.targets c.toNat).map Char.ofNat := by
  rw [mem_sources, get?, targets, List.map_map]
  split
  · rename_i inside
    rw [Option.some.injEq]
    exact ⟨fun same => ⟨inside, same.symm⟩, fun both => both.2.symm⟩
  · rename_i outside
    exact ⟨(fun absent => by cases absent), fun both => absurd both.1 outside⟩

end MapRun

/-- The mask of all code points that some runs map. -/
def sourcesOf (rows : List MapRun) : Nat := joined (fun r => maskOf r.sources) rows

theorem testBit_sourcesOf {rows : List MapRun} {n : Nat} :
    (sourcesOf rows).testBit n = true ↔ ∃ r ∈ rows, n ∈ r.sources := by
  rw [sourcesOf, testBit_joined]
  simp only [testBit_maskOf]

namespace CharMap

theorem exists_of_get? {m : CharMap} {c : Char} {cs : List Char} (mapped : m.get? c = some cs) :
    ∃ r ∈ m.runs, c.toNat ∈ r.sources ∧ cs = (r.targets c.toNat).map Char.ofNat := by
  obtain ⟨r, member, found⟩ := List.exists_of_findSome?_eq_some mapped
  exact ⟨r, member, MapRun.get?_eq_some_iff.1 found⟩

/-- **The mask of a map** tells which characters it maps. -/
theorem testBit_sourcesOf_runs (m : CharMap) (c : Char) :
    (sourcesOf m.runs).testBit c.toNat = (m.get? c).isSome := by
  rw [Bool.eq_iff_iff, testBit_sourcesOf, get?, List.isSome_findSome?, List.any_eq_true]
  constructor
  · rintro ⟨r, member, inside⟩
    exact ⟨r, member, by rw [MapRun.get?_eq_some_iff.2 ⟨inside, rfl⟩]; rfl⟩
  · rintro ⟨r, member, found⟩
    obtain ⟨cs, same⟩ := Option.isSome_iff_exists.1 found
    exact ⟨r, member, (MapRun.get?_eq_some_iff.1 same).1⟩

end CharMap

/-- A number that stands for a character is the number of that character. -/
theorem toNat_ofNat {n : Nat} (valid : n.isValidChar) : (Char.ofNat n).toNat = n := by
  rw [Char.ofNat, dif_pos valid]
  rfl

end BearerGate.Unicode
