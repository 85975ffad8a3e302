import BearerGate.Proofs.Unicode.Normalization
import BearerGate.Url.HostMapping

/-!
# Names that have been mapped

A name that has been mapped and brought into normal form holds only characters that are mapped to themselves
(`forall_fixed_normalize`), so mapping it again leaves it as it is (`mapName?_of_fixed`).  The characters that are mapped
to themselves are those of one mask, and the tables are closed under it: what a character is mapped to is in the mask,
what a character of the mask decomposes to is, and what such characters are put together to is (`tables_closed`).
-/

namespace BearerGate.HostMapping

open Unicode

/-- ASCII without its capital letters. -/
def asciiMask : Nat := span 0 0x40 ||| span 0x5b 0x7f

/-- What is mapped to something else, or to nothing. -/
def changedMask : Nat := sourcesOf mapped.runs ||| ignored.mask

/-- The characters that are mapped to themselves. -/
def fixedMask : Nat := asciiMask ||| (allowed.mask ^^^ (allowed.mask &&& changedMask))

/-- A character that is mapped to itself. -/
def Fixed (c : Char) : Prop := fixedMask.testBit c.toNat = true

/-! ### What the tables say -/

/-- Whether code points are those of characters in the mask. -/
def areFixed (ts : List Nat) : Bool := ts.all fun t => fixedMask.testBit t && t.isValidChar

/-- Whether the tables never lead out of the mask; and the mask is bounded. -/
def areTablesClosed : Bool :=
  (mapped.runs.all fun r => r.sources.all fun n => areFixed (r.targets n)) &&
  (rows.all fun r => r.sources.all fun n =>
    (!fixedMask.testBit n || areFixed (r.targets n)) &&
    (neverComposed.mask.testBit n || (r.targets n).length != 2 || !areFixed (r.targets n) || fixedMask.testBit n)) &&
  (syllableMask ||| letterMask) &&& fixedMask == syllableMask ||| letterMask &&
  allowed.mask &&& span 0 0x7f == 0 &&
  fixedMask >>> 0x323b0 == 0

theorem tables_closed : areTablesClosed = true := by decide +kernel

theorem fixed_of_areFixed {ts : List Nat} (fine : areFixed ts = true) : ∀ c ∈ ts.map Char.ofNat, Fixed c := by
  intro c member
  obtain ⟨t, there, rfl⟩ := List.mem_map.1 member
  have own := List.all_eq_true.1 fine t there
  rw [Bool.and_eq_true, decide_eq_true_iff] at own
  rw [Fixed, toNat_ofNat own.2]
  exact own.1

theorem areFixed_of_fixed {ts : List Nat} (fine : ∀ t ∈ ts, t.isValidChar) (fixed : ∀ c ∈ ts.map Char.ofNat, Fixed c) :
    areFixed ts = true := by
  refine List.all_eq_true.2 fun t there => ?_
  have own := fixed _ (List.mem_map_of_mem there)
  rw [Fixed, toNat_ofNat (fine t there)] at own
  rw [own, Bool.true_and, decide_eq_true_iff]
  exact fine t there

/-- The parts of `tables_closed`. -/
theorem closed_parts :
    (mapped.runs.all fun r => r.sources.all fun n => areFixed (r.targets n)) = true ∧
    (rows.all fun r => r.sources.all fun n =>
      (!fixedMask.testBit n || areFixed (r.targets n)) &&
      (neverComposed.mask.testBit n || (r.targets n).length != 2 || !areFixed (r.targets n) ||
        fixedMask.testBit n)) = true ∧
    (syllableMask ||| letterMask) &&& fixedMask = syllableMask ||| letterMask ∧
    allowed.mask &&& span 0 0x7f = 0 ∧ fixedMask >>> 0x323b0 = 0 := by
  have closed := tables_closed
  rw [areTablesClosed, Bool.and_eq_true, Bool.and_eq_true, Bool.and_eq_true, Bool.and_eq_true, beq_iff_eq, beq_iff_eq,
    beq_iff_eq] at closed
  exact ⟨closed.1.1.1.1, closed.1.1.1.2, closed.1.1.2, closed.1.2, closed.2⟩

/-! ### Characters that are mapped to themselves -/

theorem testBit_asciiMask {n : Nat} : asciiMask.testBit n = true ↔ n < 0x80 ∧ ¬(0x41 ≤ n ∧ n ≤ 0x5a) := by
  rw [asciiMask, Nat.testBit_or, Bool.or_eq_true, testBit_span, testBit_span]
  omega

/-- Small letters are small, and stay as they are. -/
theorem toLower_ascii {c : Char} (ascii : c.toNat < 0x80) :
    asciiMask.testBit c.toLower.toNat = true ∧ (asciiMask.testBit c.toNat = true → c.toLower = c) := by
  have all : ∀ n < 0x80, asciiMask.testBit (Char.ofNat n).toLower.toNat = true ∧
      (asciiMask.testBit n = true → (Char.ofNat n).toLower = Char.ofNat n) := by decide +kernel
  have own := all c.toNat ascii
  rw [Char.ofNat_toNat] at own
  exact own

/-- **Outside ASCII** the mask has what is allowed and not changed. -/
theorem fixed_iff {c : Char} : Fixed c ↔ asciiMask.testBit c.toNat = true ∨
    (0x80 ≤ c.toNat ∧ allowed.contains c = true ∧ mapped.get? c = none ∧ ignored.contains c = false) := by
  have high : allowed.contains c = true → 0x80 ≤ c.toNat := by
    intro inside
    rw [← CharSet.testBit_mask] at inside
    have outside := testBit_eq_false_of_land_eq_zero closed_parts.2.2.2.1 inside
    refine Nat.not_lt.1 fun low => ?_
    rw [testBit_span.2 ⟨Nat.zero_le _, by omega⟩] at outside
    cases outside
  rw [Fixed, fixedMask, Nat.testBit_or, Bool.or_eq_true, Nat.testBit_xor, Nat.testBit_and, changedMask, Nat.testBit_or,
    CharMap.testBit_sourcesOf_runs, CharSet.testBit_mask, CharSet.testBit_mask]
  refine or_congr_right ?_
  cases inside : allowed.contains c
  · simp
  · cases mapped.get? c <;> cases ignored.contains c <;> simp [high inside]

/-- **A character of the mask is mapped to itself.** -/
theorem map?_of_fixed {c : Char} (fixed : Fixed c) : map? c = some [c] := by
  rw [map?]
  rcases fixed_iff.1 fixed with ascii | ⟨high, inside, unmapped, kept⟩
  · have low := (testBit_asciiMask.1 ascii).1
    rw [if_pos low, (toLower_ascii low).2 ascii]
  · rw [if_neg (by omega), if_neg (by simp [kept]), unmapped, if_pos inside]

/-- **What a character is mapped to is in the mask.** -/
theorem fixed_of_map? {c : Char} {cs : List Char} (read : map? c = some cs) : ∀ e ∈ cs, Fixed e := by
  rw [map?] at read
  split at read
  · rename_i ascii
    obtain rfl := Option.some.inj read
    exact List.forall_mem_singleton.2 (fixed_iff.2 (.inl (toLower_ascii ascii).1))
  rename_i high
  split at read
  · obtain rfl := Option.some.inj read
    exact List.forall_mem_nil _
  rename_i kept
  split at read
  · rename_i cs' changed
    obtain rfl := Option.some.inj read
    obtain ⟨r, member, source, rfl⟩ := CharMap.exists_of_get? changed
    exact fixed_of_areFixed (List.all_eq_true.1 (List.all_eq_true.1 closed_parts.1 r member) _ source)
  · rename_i unmapped
    split at read
    · rename_i inside
      obtain rfl := Option.some.inj read
      exact List.forall_mem_singleton.2
        (fixed_iff.2 (.inr ⟨Nat.not_lt.1 high, inside, unmapped, Bool.eq_false_iff.2 kept⟩))
    · cases read

theorem fixed_of_letter {n : Nat} {c : Char} (syllable : Hangul.isSyllable n = true) (member : c ∈ Hangul.letters n) :
    Fixed c := by
  refine testBit_of_land_eq closed_parts.2.2.1 ?_
  rw [Nat.testBit_or, letter_of_mem syllable member, Bool.or_true]

theorem fixed_of_syllable {c : Char} (syllable : Hangul.isSyllable c.toNat = true) : Fixed c := by
  refine testBit_of_land_eq closed_parts.2.2.1 ?_
  rw [Nat.testBit_or, testBit_syllableMask, syllable, Bool.true_or]

/-- What a row of the tables says of the mask. -/
theorem closed_row {r : MapRun} (member : r ∈ rows) {n : Nat} (source : n ∈ r.sources) :
    (fixedMask.testBit n = true → areFixed (r.targets n) = true) ∧
    (neverComposed.mask.testBit n = false → (r.targets n).length = 2 → areFixed (r.targets n) = true →
      fixedMask.testBit n = true) := by
  have own := List.all_eq_true.1 (List.all_eq_true.1 closed_parts.2.1 r member) n source
  rw [Bool.and_eq_true] at own
  refine ⟨fun fixed => ?_, fun kept two targets => ?_⟩
  · simpa [fixed] using own.1
  · simpa [kept, two, targets] using own.2

/-- What a character of the mask decomposes to is in the mask. -/
theorem fixed_decomposeChar {k : Nat} {c : Char} (fixed : Fixed c) : ∀ d ∈ decomposeChar k c, Fixed d := by
  induction k generalizing c with
  | zero => exact List.forall_mem_singleton.2 fixed
  | succ k ih =>
    by_cases syllable : Hangul.isSyllable c.toNat = true
    · rw [decomposeChar_succ_of_syllable syllable]
      exact fun d member => fixed_of_letter syllable member
    cases stepped : step? c with
    | none =>
      rw [final_of_step? (Bool.eq_false_iff.2 syllable) stepped]
      exact List.forall_mem_singleton.2 fixed
    | some cs =>
      rw [decomposeChar_succ_of_step? stepped]
      intro d member
      obtain ⟨e, part, inside⟩ := List.mem_flatMap.1 member
      obtain ⟨r, there, source, rfl⟩ := exists_row stepped
      exact ih (fixed_of_areFixed ((closed_row there source).1 fixed) e part) d inside

/-- **What characters of the mask are put together to is in the mask.** -/
theorem fixed_compose? {a b c : Char} (composed : compose? a b = some c) (first : Fixed a) (second : Fixed b) :
    Fixed c := by
  rcases join?_or_step? composed with joined | ⟨stepped, kept⟩
  · obtain ⟨l, v, t, vowel, trailing, leading, rfl, -⟩ := exists_of_join? joined
    refine fixed_of_syllable (isSyllable_iff.2 ?_)
    rw [toNat_ofNat (.inl (by omega))]
    omega
  · obtain ⟨r, there, source, same⟩ := exists_row stepped
    have two : (r.targets c.toNat).length = 2 := by
      rw [← List.length_map (f := Char.ofNat), ← same]
      rfl
    rw [← CharSet.testBit_mask] at kept
    refine (closed_row there source).2 kept two (areFixed_of_fixed (fun t => valid_of_row there source) ?_)
    rw [← same]
    exact List.forall_mem_cons.2 ⟨first, List.forall_mem_singleton.2 second⟩

/-! ### Names -/

/-- What comes of each member of a list. -/
theorem mapM_eq_some {α β : Type} {f : α → Option β} {xs : List α} {ys : List β} (all : xs.mapM f = some ys) :
    List.Forall₂ (fun x y => f x = some y) xs ys := by
  induction xs generalizing ys with
  | nil =>
    obtain rfl := Option.some.inj all
    exact .nil
  | cons x xs ih =>
    rw [List.mapM_cons] at all
    obtain ⟨y, first, rest⟩ := Option.bind_eq_some_iff.1 all
    obtain ⟨ys', later, same⟩ := Option.bind_eq_some_iff.1 rest
    obtain rfl := Option.some.inj same
    exact .cons first (ih later)

/-- Every result comes from a member. -/
theorem exists_of_forall₂ {α β : Type} {R : α → β → Prop} {xs : List α} {ys : List β} (all : List.Forall₂ R xs ys)
    {y : β} (member : y ∈ ys) : ∃ x ∈ xs, R x y := by
  induction all with
  | nil => cases member
  | cons first _ ih =>
    rcases List.mem_cons.1 member with rfl | later
    · exact ⟨_, List.mem_cons_self, first⟩
    · obtain ⟨x, there, related⟩ := ih later
      exact ⟨x, List.mem_cons_of_mem _ there, related⟩

/-- **A name of such characters is mapped to itself.** -/
theorem mapName?_of_fixed {cs : List Char} (fixed : ∀ c ∈ cs, Fixed c) : mapName? cs = some cs := by
  have each : cs.mapM map? = some (cs.map fun c => [c]) := by
    induction cs with
    | nil => rfl
    | cons c cs ih =>
      rw [List.mapM_cons, map?_of_fixed (fixed c List.mem_cons_self),
        ih fun d member => fixed d (List.mem_cons_of_mem _ member)]
      rfl
  rw [mapName?, each, Option.map_some]
  exact congrArg some (List.flatMap_singleton' cs)

/-- What is mapped consists of what its characters are mapped to. -/
theorem fixed_of_mapName? {cs name : List Char} (read : mapName? cs = some name) : ∀ c ∈ name, Fixed c := by
  rw [mapName?] at read
  obtain ⟨parts, each, rfl⟩ := Option.map_eq_some_iff.1 read
  intro c member
  obtain ⟨part, there, inside⟩ := List.mem_flatten.1 member
  obtain ⟨d, -, own⟩ := exists_of_forall₂ (mapM_eq_some each) there
  exact fixed_of_map? own c inside

/-- **A name that is mapped and in normal form** holds only characters that are mapped to themselves. -/
theorem forall_fixed_normalize {cs name : List Char} (read : mapName? cs = some name) :
    ∀ c ∈ normalize name, Fixed c :=
  forall_mem_normalize (fun composed first second => fixed_compose? composed first second) fun c member =>
    fixed_decomposeChar (fixed_of_mapName? read c member)

/-- No such character lies far from ASCII. -/
theorem lt_of_fixed {c : Char} (fixed : Fixed c) : c.toNat < 0x323b0 := by
  refine Nat.not_le.1 fun far => ?_
  have above : (fixedMask >>> 0x323b0).testBit (c.toNat - 0x323b0) = false := by
    rw [closed_parts.2.2.2.2, Nat.zero_testBit]
  rw [Nat.testBit_shiftRight, Nat.add_sub_cancel' far] at above
  rw [Fixed, above] at fixed
  cases fixed

end BearerGate.HostMapping
