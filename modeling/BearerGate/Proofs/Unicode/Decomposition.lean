import BearerGate.Proofs.Unicode.Mask
import BearerGate.Unicode.Decomposition
import Mathlib.Data.List.Chain
import Mathlib.Data.List.Nodup

/-!
# Decompositions

The full decomposition of a character consists of characters that decompose no further (`decomposed_of_mem`), and a
character that two others are put together to decomposes as they do (`decomposed_compose?`).  Both rest on the tables
only through a few facts about masks: `unsettled k` has the characters that `k` steps may leave undecomposed, and none is
left after the steps that are allowed (`unsettled_eq_zero`).
-/

namespace BearerGate.Unicode

/-- The full decomposition of a character. -/
def decomposed (c : Char) : List Char := decomposeChar decompositionDepth c

/-- All rows by which characters decompose. -/
def rows : List MapRun := pairRows.runs ++ twinRows.runs

/-- The syllables of the Korean script. -/
def syllableMask : Nat := span 0xac00 0xd7a3

/-- Their letters. -/
def letterMask : Nat := span 0x1100 0x1112 ||| span 0x1161 0x1175 ||| span 0x11a8 0x11c2

/-- Whether a row leads to a character of a mask, or to no character at all. -/
def MapRun.leadsInto (mask : Nat) (r : MapRun) : Bool :=
  r.sources.any fun n => (r.targets n).any fun t => mask.testBit t || !t.isValidChar

/-- The characters that may not be decomposed fully after some steps. -/
def unsettled : Nat → Nat
  | 0 => sourcesOf rows ||| syllableMask
  | k + 1 => sourcesOf (rows.filter (MapRun.leadsInto (unsettled k)))

/-! ### What the tables say -/

/-- **All that is used of the tables.** It is checked at once: the parts are about the same masks. -/
theorem tables_checked :
    unsettled decompositionDepth = 0 ∧ letterMask &&& unsettled 0 = 0 ∧
    sourcesOf rows &&& (span 0 0xbf ||| syllableMask) = 0 ∧ (pairRows.runs.map MapRun.first).IsChain (· < ·) ∧
    (pairRows.runs.all fun r => r.first == r.last && r.first.isValidChar) = true ∧
    (rows.all fun r => r.sources.all fun n => (r.targets n).all fun t => Char.ofNat t ≠ '.') = true := by
  decide +kernel

theorem unsettled_eq_zero : unsettled decompositionDepth = 0 := tables_checked.1

theorem letters_settled : letterMask &&& unsettled 0 = 0 := tables_checked.2.1

theorem rows_high : sourcesOf rows &&& (span 0 0xbf ||| syllableMask) = 0 := tables_checked.2.2.1

theorem pairRows_ascending : (pairRows.runs.map MapRun.first).IsChain (· < ·) := tables_checked.2.2.2.1

theorem pairRows_single : (pairRows.runs.all fun r => r.first == r.last && r.first.isValidChar) = true :=
  tables_checked.2.2.2.2.1

theorem targets_undotted :
    (rows.all fun r => r.sources.all fun n => (r.targets n).all fun t => Char.ofNat t ≠ '.') = true :=
  tables_checked.2.2.2.2.2

/-! ### Decomposing step by step -/

/-- A character that no step decomposes. -/
def Final (c : Char) : Prop := ∀ k, decomposeChar k c = [c]

/-- What a character is decomposed to by one step. -/
def step? (c : Char) : Option (List Char) := (pairRows.get? c).or (twinRows.get? c)

theorem exists_row {c : Char} {cs : List Char} (stepped : step? c = some cs) :
    ∃ r ∈ rows, c.toNat ∈ r.sources ∧ cs = (r.targets c.toNat).map Char.ofNat := by
  rw [step?, Option.or_eq_some_iff] at stepped
  rcases stepped with pair | ⟨-, twin⟩
  · obtain ⟨r, member, found⟩ := CharMap.exists_of_get? pair
    exact ⟨r, List.mem_append_left _ member, found⟩
  · obtain ⟨r, member, found⟩ := CharMap.exists_of_get? twin
    exact ⟨r, List.mem_append_right _ member, found⟩

theorem testBit_rows (c : Char) : (sourcesOf rows).testBit c.toNat = (step? c).isSome := by
  have both : (sourcesOf rows).testBit c.toNat =
      ((sourcesOf pairRows.runs).testBit c.toNat || (sourcesOf twinRows.runs).testBit c.toNat) := by
    rw [Bool.eq_iff_iff, Bool.or_eq_true, testBit_sourcesOf, testBit_sourcesOf, testBit_sourcesOf]
    simp only [rows, List.mem_append, or_and_right, exists_or]
  rw [both, CharMap.testBit_sourcesOf_runs, CharMap.testBit_sourcesOf_runs, step?, Option.isSome_or]

/-- Syllables are told by their code points. -/
theorem isSyllable_iff {n : Nat} : Hangul.isSyllable n = true ↔ 0xac00 ≤ n ∧ n ≤ 0xd7a3 := by
  simp only [Hangul.isSyllable, Bool.and_eq_true, decide_eq_true_eq]
  simp only [Hangul.firstSyllable, Hangul.perLeading]
  omega

theorem testBit_syllableMask (n : Nat) : syllableMask.testBit n = Hangul.isSyllable n := by
  rw [Bool.eq_iff_iff, syllableMask, testBit_span, isSyllable_iff]

/-- What decomposes stands high, and is no syllable. -/
theorem high_of_step? {c : Char} {cs : List Char} (stepped : step? c = some cs) :
    ¬c.toNat < 0xc0 ∧ Hangul.isSyllable c.toNat = false := by
  have there : (sourcesOf rows).testBit c.toNat = true := by rw [testBit_rows, stepped]; rfl
  have outside := testBit_eq_false_of_land_eq_zero rows_high there
  rw [Nat.testBit_or, Bool.or_eq_false_iff, testBit_syllableMask] at outside
  refine ⟨fun low => ?_, outside.2⟩
  have inside : (span 0 0xbf).testBit c.toNat = true := testBit_span.2 ⟨Nat.zero_le _, by omega⟩
  rw [outside.1] at inside
  cases inside

theorem decomposeChar_succ_of_step? {c : Char} {cs : List Char} (stepped : step? c = some cs) (k : Nat) :
    decomposeChar (k + 1) c = cs.flatMap (decomposeChar k) := by
  obtain ⟨high, other⟩ := high_of_step? stepped
  have found : (pairRows.get? c).or (twinRows.get? c) = some cs := stepped
  rw [decomposeChar, if_neg high, if_neg (Bool.eq_false_iff.1 other), found]

theorem decomposeChar_succ_of_syllable {c : Char} (syllable : Hangul.isSyllable c.toNat = true) (k : Nat) :
    decomposeChar (k + 1) c = Hangul.letters c.toNat := by
  have high : ¬c.toNat < 0xc0 := by
    have := isSyllable_iff.1 syllable
    omega
  rw [decomposeChar, if_neg high, if_pos syllable]

theorem final_of_step? {c : Char} (other : Hangul.isSyllable c.toNat = false) (unstepped : step? c = none) :
    Final c := by
  intro k
  cases k with
  | zero => rfl
  | succ k =>
    have found : (pairRows.get? c).or (twinRows.get? c) = none := unstepped
    rw [decomposeChar, if_neg (Bool.eq_false_iff.1 other), found]
    exact ite_self _

theorem final_of_testBit {c : Char} (settled : (unsettled 0).testBit c.toNat = false) : Final c := by
  rw [unsettled, Nat.testBit_or, Bool.or_eq_false_iff, testBit_rows, testBit_syllableMask] at settled
  exact final_of_step? settled.2 (Option.isNone_iff_eq_none.1 (Option.isSome_eq_false_iff.1 settled.1))

/-- **Steps that decompose a character fully:** more of them change nothing, and what is left is final. -/
structure Settled (k : Nat) (c : Char) : Prop where
  steady : ∀ j, decomposeChar (k + j) c = decomposeChar k c
  final : ∀ d ∈ decomposeChar k c, Final d

theorem Final.settled {c : Char} (final : Final c) (k : Nat) : Settled k c where
  steady := fun j => (final (k + j)).trans (final k).symm
  final := by
    intro d member
    rw [final k] at member
    rw [List.mem_singleton.1 member]
    exact final

/-- Where the letters of a syllable stand. -/
theorem letter_of_mem {n : Nat} {d : Char} (syllable : Hangul.isSyllable n = true) (member : d ∈ Hangul.letters n) :
    letterMask.testBit d.toNat = true := by
  have bounds := isSyllable_iff.1 syllable
  have letter : ∀ m, (0x1100 ≤ m ∧ m ≤ 0x1112) ∨ (0x1161 ≤ m ∧ m ≤ 0x1175) ∨ (0x11a8 ≤ m ∧ m ≤ 0x11c2) →
      letterMask.testBit (Char.ofNat m).toNat = true := by
    intro m inside
    rw [toNat_ofNat (.inl (by omega)), letterMask, Nat.testBit_or, Nat.testBit_or, Bool.or_eq_true, Bool.or_eq_true,
      testBit_span, testBit_span, testBit_span, or_assoc]
    exact inside
  have leading : Hangul.firstLeading + (n - Hangul.firstSyllable) / Hangul.perLeading ≤ 0x1112 := by
    change 0x1100 + (n - 0xac00) / 588 ≤ 0x1112
    omega
  have vowel : Hangul.firstVowel + (n - Hangul.firstSyllable) % Hangul.perLeading / 28 ≤ 0x1175 := by
    change 0x1161 + (n - 0xac00) % 588 / 28 ≤ 0x1175
    omega
  have trailing : Hangul.beforeTrailing + (n - Hangul.firstSyllable) % 28 ≤ 0x11c2 := by
    change 0x11a7 + (n - 0xac00) % 28 ≤ 0x11c2
    omega
  have front : ∀ d ∈ [Char.ofNat (Hangul.firstLeading + (n - Hangul.firstSyllable) / Hangul.perLeading),
      Char.ofNat (Hangul.firstVowel + (n - Hangul.firstSyllable) % Hangul.perLeading / 28)],
      letterMask.testBit d.toNat = true := by
    intro d member
    rcases List.mem_pair.1 member with rfl | rfl
    · exact letter _ (.inl ⟨Nat.le_add_right _ _, leading⟩)
    · exact letter _ (.inr (.inl ⟨Nat.le_add_right _ _, vowel⟩))
  rw [Hangul.letters] at member
  split at member
  · exact front d member
  · rename_i more
    rcases List.mem_append.1 member with first | last
    · exact front d first
    · rw [List.mem_singleton.1 last]
      refine letter _ (.inr (.inr ⟨?_, trailing⟩))
      change 0x11a8 ≤ 0x11a7 + _
      omega

theorem Settled.of_step? {k : Nat} {c : Char} {cs : List Char} (stepped : step? c = some cs)
    (parts : ∀ e ∈ cs, Settled k e) : Settled (k + 1) c where
  steady := fun j => by
    have more : k + 1 + j = (k + j) + 1 := by omega
    rw [more, decomposeChar_succ_of_step? stepped, decomposeChar_succ_of_step? stepped]
    exact List.flatMap_congr fun e member => (parts e member).steady j
  final := fun d member => by
    rw [decomposeChar_succ_of_step? stepped] at member
    obtain ⟨e, there, inside⟩ := List.mem_flatMap.1 member
    exact (parts e there).final d inside

theorem Settled.of_syllable {c : Char} (syllable : Hangul.isSyllable c.toNat = true) (k : Nat) :
    Settled (k + 1) c where
  steady := fun j => by
    have more : k + 1 + j = (k + j) + 1 := by omega
    rw [more, decomposeChar_succ_of_syllable syllable, decomposeChar_succ_of_syllable syllable]
  final := fun d member => by
    rw [decomposeChar_succ_of_syllable syllable] at member
    have letter := letter_of_mem syllable member
    exact final_of_testBit (testBit_eq_false_of_land_eq_zero letters_settled letter)

/-- A row of a character that is settled leads to characters that were settled before. -/
theorem settled_row {k n : Nat} (out : (unsettled (k + 1)).testBit n = false) {r : MapRun} (member : r ∈ rows)
    (source : n ∈ r.sources) {t : Nat} (target : t ∈ r.targets n) :
    (unsettled k).testBit t = false ∧ t.isValidChar := by
  have straight : r.leadsInto (unsettled k) = false := by
    rw [Bool.eq_false_iff]
    intro leads
    have bit : (unsettled (k + 1)).testBit n = true :=
      testBit_sourcesOf.2 ⟨r, List.mem_filter.2 ⟨member, leads⟩, source⟩
    rw [out] at bit
    cases bit
  rw [MapRun.leadsInto, List.any_eq_false] at straight
  have fine := straight _ source
  rw [Bool.not_eq_true, List.any_eq_false] at fine
  have own := fine t target
  rw [Bool.not_eq_true, Bool.or_eq_false_iff, Bool.not_eq_false', decide_eq_true_iff] at own
  exact own

/-- **What the masks leave out is decomposed fully.** -/
theorem settled_of_testBit {k : Nat} {c : Char} (out : (unsettled k).testBit c.toNat = false) : Settled k c := by
  induction k generalizing c with
  | zero => exact (final_of_testBit out).settled 0
  | succ k ih =>
    by_cases syllable : Hangul.isSyllable c.toNat = true
    · exact .of_syllable syllable k
    cases stepped : step? c with
    | none => exact (final_of_step? (Bool.eq_false_iff.2 syllable) stepped).settled (k + 1)
    | some cs =>
      refine .of_step? stepped fun e part => ih ?_
      obtain ⟨r, member, source, rfl⟩ := exists_row stepped
      obtain ⟨t, target, rfl⟩ := List.mem_map.1 part
      obtain ⟨before, valid⟩ := settled_row out member source target
      rw [toNat_ofNat valid]
      exact before

/-- Rows lead to characters. -/
theorem valid_of_row {r : MapRun} (member : r ∈ rows) {n t : Nat} (source : n ∈ r.sources) (target : t ∈ r.targets n) :
    t.isValidChar := by
  have out : (unsettled (3 + 1)).testBit n = false := by
    have none_left : unsettled (3 + 1) = 0 := unsettled_eq_zero
    rw [none_left, Nat.zero_testBit]
  exact (settled_row out member source target).2

theorem settled (c : Char) : Settled decompositionDepth c := by
  refine settled_of_testBit ?_
  rw [unsettled_eq_zero, Nat.zero_testBit]

/-- **The parts of a full decomposition decompose no further.** -/
theorem decomposed_of_mem {c d : Char} (member : d ∈ decomposed c) : decomposed d = [d] :=
  (settled c).final d member decompositionDepth

/-! ### Putting together -/

/-- The rows of pairs are told apart by the characters that they map. -/
theorem pairRows_unique {r s : MapRun} (there : r ∈ pairRows.runs) (there' : s ∈ pairRows.runs)
    (same : r.first = s.first) : r = s := by
  have distinct : (pairRows.runs.map MapRun.first).Nodup :=
    (List.isChain_iff_pairwise.1 pairRows_ascending).imp Nat.ne_of_lt
  exact List.inj_on_of_nodup_map distinct there there' same

/-- **A pair that is put together** is what the character decomposes to in one step. -/
theorem step?_of_source? {c : Char} {cs : List Char} (source : pairRows.source? cs = some c) : step? c = some cs := by
  rw [CharMap.source?] at source
  obtain ⟨r, found, rfl⟩ := Option.map_eq_some_iff.1 source
  have member := List.mem_of_find?_eq_some found
  have matched := List.find?_some found
  simp only [Bool.and_eq_true, decide_eq_true_eq] at matched
  have single : ∀ s ∈ pairRows.runs, s.first = s.last ∧ s.first.isValidChar := by
    intro s there
    have fine := List.all_eq_true.1 pairRows_single s there
    rw [Bool.and_eq_true, beq_iff_eq, decide_eq_true_iff] at fine
    exact fine
  have number := toNat_ofNat (single r member).2
  have inside : (Char.ofNat r.first).toNat ∈ r.sources := by
    rw [number, MapRun.mem_sources, Nat.sub_self, Nat.zero_mod]
    exact ⟨Nat.le_refl _, Nat.le_of_eq (single r member).1, rfl⟩
  have mapped : (pairRows.get? (Char.ofNat r.first)).isSome = true := by
    rw [← CharMap.testBit_sourcesOf_runs]
    exact testBit_sourcesOf.2 ⟨r, member, inside⟩
  obtain ⟨cs', get⟩ := Option.isSome_iff_exists.1 mapped
  obtain ⟨s, member', inside', rfl⟩ := CharMap.exists_of_get? get
  have bounds := MapRun.mem_sources.1 inside'
  rw [number, ← (single s member').1] at bounds
  obtain rfl := pairRows_unique member' member (Nat.le_antisymm bounds.1 bounds.2.1)
  have own : (cs.map Char.toNat).map Char.ofNat = cs := by
    simp [List.map_map, Function.comp_def]
  have targets : s.targets s.first = cs.map Char.toNat := by
    rw [MapRun.targets, matched.2, Nat.sub_self]
    exact List.map_id _
  rw [step?, get, Option.some_or, number, targets, own]

theorem decomposed_of_syllable {c : Char} (syllable : Hangul.isSyllable c.toNat = true) :
    decomposed c = Hangul.letters c.toNat := decomposeChar_succ_of_syllable syllable 3

theorem decomposed_of_letter {c : Char} (letter : letterMask.testBit c.toNat = true) : decomposed c = [c] :=
  final_of_testBit (testBit_eq_false_of_land_eq_zero letters_settled letter) decompositionDepth

theorem testBit_letterMask {n : Nat} : letterMask.testBit n = true ↔
    (0x1100 ≤ n ∧ n ≤ 0x1112) ∨ (0x1161 ≤ n ∧ n ≤ 0x1175) ∨ (0x11a8 ≤ n ∧ n ≤ 0x11c2) := by
  rw [letterMask, Nat.testBit_or, Nat.testBit_or, Bool.or_eq_true, Bool.or_eq_true, testBit_span, testBit_span,
    testBit_span, or_assoc]

/-- The letters of the syllable with a number, a vowel and a trailing consonant. -/
theorem letters_eq {l v t : Nat} (vowel : v < 21) (trailing : t < 28) :
    Hangul.letters (0xac00 + (l * 21 + v) * 28 + t) =
      [Char.ofNat (0x1100 + l), Char.ofNat (0x1161 + v)] ++ if t = 0 then [] else [Char.ofNat (0x11a7 + t)] := by
  have index : 0xac00 + (l * 21 + v) * 28 + t - Hangul.firstSyllable = (l * 21 + v) * 28 + t := by
    change 0xac00 + (l * 21 + v) * 28 + t - 0xac00 = _
    omega
  have leading : ((l * 21 + v) * 28 + t) / Hangul.perLeading = l := by
    change ((l * 21 + v) * 28 + t) / 588 = l
    omega
  have middle : ((l * 21 + v) * 28 + t) % Hangul.perLeading / 28 = v := by
    change ((l * 21 + v) * 28 + t) % 588 / 28 = v
    omega
  have last : ((l * 21 + v) * 28 + t) % 28 = t := by omega
  rw [Hangul.letters, index, leading, middle, last]
  split
  · rfl
  · rfl

/-- The syllable that letters are put together to. -/
theorem exists_of_join? {a b : Nat} {c : Char} (joined : Hangul.join? a b = some c) : ∃ l v t, v < 21 ∧ t < 28 ∧
    l < 19 ∧ c = Char.ofNat (0xac00 + (l * 21 + v) * 28 + t) ∧
    ((a = 0x1100 + l ∧ b = 0x1161 + v ∧ t = 0) ∨ (a = 0xac00 + (l * 21 + v) * 28 ∧ b = 0x11a7 + t ∧ t ≠ 0)) := by
  have unfolded : Hangul.join? a b =
      if 0x1100 ≤ a ∧ a < 0x1100 + 19 ∧ 0x1161 ≤ b ∧ b < 0x1161 + 21 then
        some (Char.ofNat (0xac00 + ((a - 0x1100) * 21 + (b - 0x1161)) * 28))
      else if Hangul.isSyllable a = true ∧ (a - 0xac00) % 28 = 0 ∧ 0x11a7 < b ∧ b < 0x11a7 + 28 then
        some (Char.ofNat (a + (b - 0x11a7)))
      else none := rfl
  rw [unfolded] at joined
  split at joined
  · rename_i bounds
    refine ⟨a - 0x1100, b - 0x1161, 0, by omega, by omega, by omega, ?_, .inl ⟨by omega, by omega, rfl⟩⟩
    rw [Nat.add_zero]
    exact (Option.some.inj joined).symm
  · split at joined
    · rename_i bounds
      have range := isSyllable_iff.1 bounds.1
      have index : a = 0xac00 + ((a - 0xac00) / 588 * 21 + (a - 0xac00) / 28 % 21) * 28 := by omega
      refine ⟨(a - 0xac00) / 588, (a - 0xac00) / 28 % 21, b - 0x11a7, by omega, by omega, by omega, ?_,
        .inr ⟨index, by omega, by omega⟩⟩
      rw [← index]
      exact (Option.some.inj joined).symm
    · cases joined

/-- Letters that are put together. -/
theorem decomposed_join? {a b c : Char} (joined : Hangul.join? a.toNat b.toNat = some c) :
    decomposed c = decomposed a ++ decomposed b := by
  obtain ⟨l, v, t, vowel, trailing, leading, rfl, parts⟩ := exists_of_join? joined
  have own : ∀ {d : Char} {n : Nat}, d.toNat = n → Char.ofNat n = d := by
    rintro d _ rfl
    exact Char.ofNat_toNat d
  have syllable : ∀ {d : Char} {t : Nat}, t < 28 → d.toNat = 0xac00 + (l * 21 + v) * 28 + t → decomposed d =
      [Char.ofNat (0x1100 + l), Char.ofNat (0x1161 + v)] ++ if t = 0 then [] else [Char.ofNat (0x11a7 + t)] := by
    intro d t trailing number
    rw [← letters_eq vowel trailing, ← number]
    exact decomposed_of_syllable (isSyllable_iff.2 (by omega))
  rw [syllable trailing (toNat_ofNat (.inl (by omega)))]
  rcases parts with ⟨first, second, rfl⟩ | ⟨first, second, some_last⟩
  · rw [own first, own second, decomposed_of_letter (testBit_letterMask.2 (by omega)),
      decomposed_of_letter (testBit_letterMask.2 (by omega)), if_pos rfl]
    rfl
  · rw [syllable (t := 0) (by decide) (by rw [first, Nat.add_zero]), if_pos rfl, if_neg some_last, own second,
      decomposed_of_letter (testBit_letterMask.2 (by omega))]
    rfl

/-- Two characters that are put together are letters, or what the new one decomposes to in one step. -/
theorem join?_or_step? {a b c : Char} (composed : compose? a b = some c) :
    Hangul.join? a.toNat b.toNat = some c ∨ (step? c = some [a, b] ∧ neverComposed.contains c = false) := by
  rw [compose?, Option.or_eq_some_iff] at composed
  refine composed.imp_right fun pair => ?_
  obtain ⟨c', source, kept⟩ := Option.bind_eq_some_iff.1 pair.2
  split at kept
  · cases kept
  · rename_i allowed
    obtain rfl := Option.some.inj kept
    exact ⟨step?_of_source? source, Bool.eq_false_iff.2 allowed⟩

/-- **What two characters are put together to** decomposes as they do. -/
theorem decomposed_compose? {a b c : Char} (composed : compose? a b = some c) :
    decomposed c = decomposed a ++ decomposed b := by
  rcases join?_or_step? composed with joined | ⟨stepped, -⟩
  · exact decomposed_join? joined
  · have steady : decomposeChar (decompositionDepth + 1) c = decomposed c := (settled c).steady 1
    rw [← steady, decomposeChar_succ_of_step? stepped]
    simp [decomposed]

/-! ### Dots -/

/-- No step leads to a dot. -/
theorem dot_not_mem_of_step? {c : Char} {cs : List Char} (stepped : step? c = some cs) : '.' ∉ cs := by
  obtain ⟨r, member, source, rfl⟩ := exists_row stepped
  intro dot
  obtain ⟨t, target, same⟩ := List.mem_map.1 dot
  have other := List.all_eq_true.1 (List.all_eq_true.1 (List.all_eq_true.1 targets_undotted r member) _ source) t target
  exact of_decide_eq_true other same

/-- Letters of syllables are no dots. -/
theorem dot_not_mem_letters {n : Nat} (syllable : Hangul.isSyllable n = true) : '.' ∉ Hangul.letters n := by
  intro dot
  have bounds := testBit_letterMask.1 (letter_of_mem syllable dot)
  have number : '.'.toNat = 0x2e := rfl
  omega

/-- **A dot is in no other decomposition.** -/
theorem eq_dot_of_mem {k : Nat} {c : Char} (member : '.' ∈ decomposeChar k c) : c = '.' := by
  induction k generalizing c with
  | zero => exact (List.mem_singleton.1 member).symm
  | succ k ih =>
    by_cases syllable : Hangul.isSyllable c.toNat = true
    · rw [decomposeChar_succ_of_syllable syllable] at member
      exact absurd member (dot_not_mem_letters syllable)
    cases stepped : step? c with
    | none =>
      rw [final_of_step? (Bool.eq_false_iff.2 syllable) stepped] at member
      exact (List.mem_singleton.1 member).symm
    | some cs =>
      rw [decomposeChar_succ_of_step? stepped] at member
      obtain ⟨e, part, inside⟩ := List.mem_flatMap.1 member
      rw [ih inside] at part
      exact absurd part (dot_not_mem_of_step? stepped)

/-- **A dot is put together with nothing,** and nothing is put together to a dot. -/
theorem ne_dot_of_compose? {a b c : Char} (composed : compose? a b = some c) : a ≠ '.' ∧ b ≠ '.' ∧ c ≠ '.' := by
  have number : '.'.toNat = 0x2e := rfl
  rcases join?_or_step? composed with joined | ⟨stepped, -⟩
  · obtain ⟨l, v, t, vowel, trailing, leading, rfl, parts⟩ := exists_of_join? joined
    refine ⟨?_, ?_, fun same => ?_⟩
    · rintro rfl
      omega
    · rintro rfl
      omega
    · have whole : (Char.ofNat (0xac00 + (l * 21 + v) * 28 + t)).toNat = 0xac00 + (l * 21 + v) * 28 + t :=
        toNat_ofNat (.inl (by omega))
      rw [same] at whole
      omega
  · have absent := dot_not_mem_of_step? stepped
    refine ⟨?_, ?_, ?_⟩
    · rintro rfl
      exact absent List.mem_cons_self
    · rintro rfl
      exact absent (List.mem_cons_of_mem _ List.mem_cons_self)
    · rintro rfl
      exact (high_of_step? stepped).1 (by decide)

end BearerGate.Unicode
