import BearerGate.Proofs.Text.Pieces
import BearerGate.Proofs.Url.HostMapping
import BearerGate.Proofs.Url.Punycode
import BearerGate.Url.Label

/-!
# Labels that have been written in ASCII

The ASCII form of a label is its own ASCII form (`toAscii?_toAscii?`).  A label that has no other characters stays as
it is.  Any other one is written behind `xn--`, and what is read there again is a label that is mapped to itself, in
normal form and valid, because the label that was written is (`Settled`).

What is written can be read if it is not too long: a character is inserted by a number that grows with the label, and
the reader takes numbers up to a limit.  `longest` is a length that is safe for every character of the tables.
-/

namespace BearerGate.Label

open HostMapping Unicode

/-- A length up to which a label is read again, whatever its characters: `xn--`, and no more characters than the limit
has room for, were all of them the last one of the tables. -/
def longest : Nat := 10441

/-- A label that is not too long to be read, if it is written behind `xn--`. -/
def Bounded (label : List Char) : Prop := asciiStart <+: label → label.length ≤ longest

/-- A character that an ASCII form may have: one in ASCII that is no capital letter. -/
def Plain (c : Char) : Prop := asciiMask.testBit c.toNat = true

/-- **A label of a name that has been mapped** and brought into normal form. -/
structure Settled (label : List Char) : Prop where
  fixed : ∀ c ∈ label, Fixed c
  normal : isAscii label = false → normalize label = label
  whole : '.' ∉ label

/-! ### Plain characters -/

theorem ascii_of_plain {c : Char} (plain : Plain c) : c.toNat < 0x80 := (testBit_asciiMask.1 plain).1

theorem plain_of_fixed {c : Char} (fixed : Fixed c) (ascii : c.toNat < 0x80) : Plain c :=
  (fixed_iff.1 fixed).resolve_right fun other => Nat.not_le.2 ascii other.1

theorem fixed_of_plain {c : Char} (plain : Plain c) : Fixed c := fixed_iff.2 (.inl plain)

theorem toLower_of_plain {c : Char} (plain : Plain c) : c.toLower = c := (toLower_ascii (ascii_of_plain plain)).2 plain

/-- Digits of base 36 are plain, and none is a dot. -/
theorem plain_of_digitValue? {c : Char} (digit : (Punycode.digitValue? c).isSome = true) : Plain c ∧ c ≠ '.' := by
  have ascii : c.toNat < 0x80 := by
    rw [Punycode.digitValue?] at digit
    split at digit
    · rename_i letter
      exact Nat.lt_of_le_of_lt (show c.toNat ≤ 122 from letter.2) (by decide)
    · split at digit
      · rename_i decimal
        simp only [Char.isDigit, Bool.and_eq_true, decide_eq_true_eq] at decimal
        exact Nat.lt_of_le_of_lt (show c.toNat ≤ 57 from decimal.2) (by decide)
      · cases digit
  have all : ∀ n < 0x80, (Punycode.digitValue? (Char.ofNat n)).isSome = true →
      asciiMask.testBit n = true ∧ Char.ofNat n ≠ '.' := by decide +kernel
  have own := all c.toNat ascii
  rw [Char.ofNat_toNat] at own
  exact own digit

theorem isAscii_iff {cs : List Char} : isAscii cs = true ↔ ∀ c ∈ cs, c.toNat < 0x80 := by
  simp [isAscii]

theorem isAscii_of_plain {cs : List Char} (plain : ∀ c ∈ cs, Plain c) : isAscii cs = true :=
  isAscii_iff.2 fun c member => ascii_of_plain (plain c member)

/-! ### What is written -/

theorem dropStart?_asciiStart (cs : List Char) : Text.dropStart? asciiStart (asciiStart ++ cs) = some cs :=
  Text.dropStart?_eq_some_iff.2 rfl

/-- A label of characters that are mapped to themselves is short, if it has room in `longest`. -/
theorem short_of_fixed {label : List Char} (fixed : ∀ c ∈ label, Fixed c) (size : 4 + label.length ≤ longest) :
    Punycode.Short label := by
  intro c member
  have near := lt_of_fixed (fixed c member)
  have room : label.length ≤ 10437 := by
    unfold longest at size
    omega
  calc (c.toNat + 1) * label.length
    _ ≤ 0x323b0 * 10437 := Nat.mul_le_mul near room
    _ ≤ Punycode.limit := by decide

variable {label ascii : List Char}

/-- **The two kinds of ASCII forms:** the label itself, which has no other characters, or what is written for a valid
one. -/
theorem toAscii?_cases (read : toAscii? label = some ascii) :
    (ascii = label ∧ isAscii label = true) ∨
      (isAscii label = false ∧ isValid label = true ∧
        ∃ written, Punycode.encode? label = some written ∧ ascii = asciiStart ++ written) := by
  rw [toAscii?] at read
  split at read
  · rename_i text start
    obtain ⟨given, same⟩ := Option.ite_none_right_eq_some.1 read
    rw [Bool.and_eq_true] at given
    refine .inl ⟨(Option.some.inj same).symm, ?_⟩
    rw [Text.dropStart?_eq_some_iff.1 start, isAscii, List.all_append, Bool.and_eq_true]
    exact ⟨rfl, given.1⟩
  · split at read
    · rename_i plain
      exact .inl ⟨(Option.some.inj read).symm, plain⟩
    · rename_i other
      obtain ⟨valid, encoded⟩ := Option.ite_none_right_eq_some.1 read
      obtain ⟨written, encoded, same⟩ := Option.map_eq_some_iff.1 encoded
      exact .inr ⟨Bool.eq_false_iff.2 other, valid, written, encoded, same.symm⟩

/-- A label in ASCII has no other ASCII form than itself. -/
theorem eq_of_toAscii?_of_isAscii (plain : isAscii label = true) (read : toAscii? label = some ascii) :
    ascii = label := by
  rcases toAscii?_cases read with ⟨same, -⟩ | ⟨other, -⟩
  · exact same
  · rw [plain] at other
    cases other

/-- A label in ASCII that does not start with `xn--` stays as it is. -/
theorem toAscii?_of_isAscii (plain : isAscii label = true) (bare : 'x' ∉ label) : toAscii? label = some label := by
  have other : Text.dropStart? asciiStart label = none := by
    refine Option.eq_none_iff_forall_not_mem.2 fun rest start => bare ?_
    rw [Text.dropStart?_eq_some_iff.1 start]
    exact List.mem_cons_self
  rw [toAscii?, other]
  exact if_pos plain

/-- A label that is written behind `xn--` is short if what is written is not too long. -/
theorem short_of_encode? {written : List Char} (settled : Settled label)
    (encoded : Punycode.encode? label = some written) (bounded : Bounded (asciiStart ++ written)) :
    Punycode.Short label := by
  have size := bounded (List.prefix_append asciiStart written)
  have shorter := (Punycode.plain_of_encode? encoded).2
  rw [List.length_append, show asciiStart.length = 4 from rfl] at size
  exact short_of_fixed settled.fixed (by omega)

/-- **An ASCII form is plain,** and one label. -/
theorem plain_of_toAscii? (settled : Settled label) (read : toAscii? label = some ascii) :
    ∀ c ∈ ascii, Plain c ∧ c ≠ '.' := by
  intro c member
  rcases toAscii?_cases read with ⟨rfl, plain⟩ | ⟨-, -, written, encoded, rfl⟩
  · exact ⟨plain_of_fixed (settled.fixed c member) (isAscii_iff.1 plain c member),
      fun dot => settled.whole (dot ▸ member)⟩
  · rcases List.mem_append.1 member with start | rest
    · have all : (asciiStart.all fun d => asciiMask.testBit d.toNat && d != '.') = true := by decide
      have own := List.all_eq_true.1 all c start
      rw [Bool.and_eq_true, bne_iff_ne] at own
      exact own
    · rcases (Punycode.plain_of_encode? encoded).1 c rest with ⟨own, plain⟩ | rfl | digit
      · exact ⟨plain_of_fixed (settled.fixed c own) plain, fun dot => settled.whole (dot ▸ own)⟩
      · exact ⟨show asciiMask.testBit 0x2d = true by decide, by decide⟩
      · exact plain_of_digitValue? digit

/-- **The ASCII form of a label is its own ASCII form.** -/
theorem toAscii?_toAscii? (settled : Settled label) (read : toAscii? label = some ascii) (bounded : Bounded ascii) :
    toAscii? ascii = some ascii := by
  have plain := plain_of_toAscii? settled read
  rcases toAscii?_cases read with ⟨rfl, -⟩ | ⟨other, valid, written, encoded, rfl⟩
  · exact read
  · have again : isEncoded written = true := by
      rw [isEncoded, Punycode.decode?_encode? (short_of_encode? settled encoded bounded) encoded]
      simp [mapName?_of_fixed settled.fixed, settled.normal other, valid]
    have rest : isAscii written = true :=
      isAscii_of_plain fun c member => (plain c (List.mem_append_right asciiStart member)).1
    rw [toAscii?, dropStart?_asciiStart]
    dsimp only
    rw [rest, again]
    rfl

/-! ### A label that is too long -/

/-- A character that may stand anywhere in a label. -/
def isSimple (c : Char) : Bool :=
  !isMark c && c ≠ nonJoiner && c ≠ joiner && !runsLeftwards (Direction.ofChar c) && Direction.ofChar c ≠ .nonspacing

theorem joinerVerdict?_eq_none {cs : List Char} (plain : ∀ c ∈ cs, c ≠ nonJoiner ∧ c ≠ joiner) (before : List Char) :
    joinerVerdict? before cs = none := by
  induction cs generalizing before with
  | nil => rfl
  | cons c cs ih =>
    have first := plain c List.mem_cons_self
    rw [joinerVerdict?, if_neg first.1, if_neg first.2]
    exact ih (fun d member => plain d (List.mem_cons_of_mem c member)) _

/-- **A label of simple characters is valid.** -/
theorem isValid_of_isSimple {label : List Char} (filled : label ≠ []) (simple : ∀ c ∈ label, isSimple c = true) :
    isValid label = true := by
  simp only [isSimple, Bool.and_eq_true, Bool.not_eq_true', decide_eq_true_eq] at simple
  have no_joiner := joinerVerdict?_eq_none (fun c member => ⟨(simple c member).1.1.1.2, (simple c member).1.1.2⟩) []
  have no_mark : label.head?.any isMark = false := by
    cases label with
    | nil => rfl
    | cons c cs => exact (simple c List.mem_cons_self).1.1.1.1
  have onwards : (label.map Direction.ofChar).any runsLeftwards = false := by
    rw [List.any_map, List.any_eq_false]
    exact fun c member => Bool.eq_false_iff.1 (simple c member).1.2
  have consistent : areConsistent (label.map Direction.ofChar) = true := by
    obtain ⟨c, cs, rfl⟩ := List.exists_cons_of_ne_nil filled
    obtain ⟨front, last, split⟩ : ∃ front last, c :: cs = front ++ [last] :=
      ⟨_, _, (List.dropLast_append_getLast filled).symm⟩
    have counts : ¬decide (Direction.ofChar last = .nonspacing) = true := by
      have there : last ∈ c :: cs := by
        rw [split]
        exact List.mem_append_right _ List.mem_cons_self
      rw [decide_eq_true_iff]
      exact (simple last there).2
    have ends : ((c :: cs).map Direction.ofChar).reverse.dropWhile (· = .nonspacing) =
        Direction.ofChar last :: (front.map Direction.ofChar).reverse := by
      rw [split, List.map_append, List.map_singleton, List.reverse_append, List.reverse_singleton, List.singleton_append]
      exact List.dropWhile_cons_of_neg (p := fun d => decide (d = Direction.nonspacing)) counts
    unfold areConsistent
    rw [ends, List.map_cons]
    rw [List.map_cons] at onwards
    dsimp only
    rw [onwards]
    rfl
  rw [isValid, no_joiner, no_mark, Option.getD_none, consistent]
  rfl

section Far

open Punycode

/-- The characters of the text that can be written and not read. -/
theorem of_mem_farText {P : Char → Prop} {n : Nat} (far : P (Char.ofNat 0x31faa)) (letter : P 'a') (near : P 'æ') :
    ∀ c ∈ farText n, P c := by
  intro c member
  rcases List.mem_cons.1 member with rfl | member
  · exact far
  · rcases List.mem_append.1 member with letters | last
    · rw [List.eq_of_mem_replicate letters]
      exact letter
    · rw [List.mem_singleton.1 last]
      exact near

/-- It is a label of a name that has been mapped. -/
theorem settled_farText (n : Nat) : Settled (farText n) where
  fixed := by
    have all : [Char.ofNat 0x31faa, 'a', 'æ'].all (fun c => fixedMask.testBit c.toNat) = true := by decide +kernel
    have each := List.all_eq_true.1 all
    exact of_mem_farText (each _ (by simp)) (each _ (by simp)) (each _ (by simp))
  normal := by
    intro _
    have final : ∀ c ∈ farText n, decomposed c = [c] :=
      of_mem_farText (by decide +kernel) (by decide +kernel) (by decide +kernel)
    have starters : ∀ c ∈ farText n, combiningClass c = 0 :=
      of_mem_farText (by decide +kernel) (by decide +kernel) (by decide +kernel)
    have apart : ∀ a ∈ farText n, ∀ b ∈ farText n, compose? a b = none :=
      of_mem_farText (of_mem_farText (by decide +kernel) (by decide +kernel) (by decide +kernel))
        (of_mem_farText (by decide +kernel) (by decide +kernel) (by decide +kernel))
        (of_mem_farText (by decide +kernel) (by decide +kernel) (by decide +kernel))
    exact normalize_eq_self final starters apart
  whole := fun dot => of_mem_farText (P := (· ≠ '.')) (by decide) (by decide) (by decide) '.' dot rfl

/-- The ASCII form of a text that can be written and not read. -/
def farForm (n : Nat) : List Char := asciiStart ++ (List.replicate n 'a' ++ '-' :: farDigits n)

variable {n : Nat} (filled : 0 < n) (fits : farDelta n ≤ limit)
include filled fits

/-- **A label can have an ASCII form** -/
theorem toAscii?_farText : toAscii? (farText n) = some (farForm n) := by
  have bare : Text.dropStart? asciiStart (farText n) = none := by
    refine Option.eq_none_iff_forall_not_mem.2 fun rest start => ?_
    have first := (List.cons.inj (Text.dropStart?_eq_some_iff.1 start)).1
    exact absurd first (by decide)
  have other : isAscii (farText n) = false := by
    rw [farText, isAscii, List.all_cons]
    rfl
  have simple : ∀ c ∈ farText n, isSimple c = true :=
    of_mem_farText (by decide +kernel) (by decide +kernel) (by decide +kernel)
  have text : farText n ≠ [] := List.cons_ne_nil _ _
  rw [toAscii?, bare]
  dsimp only
  rw [other, isValid_of_isSimple text simple, encode?_farText filled fits]
  rfl

/-- **that has none itself.** -/
theorem toAscii?_farForm (beyond : limit < n + 1 + farDelta n) : toAscii? (farForm n) = none := by
  have unread : isEncoded (List.replicate n 'a' ++ '-' :: farDigits n) = false := by
    rw [isEncoded, decode?_farText filled fits beyond]
  rw [toAscii?, farForm, dropStart?_asciiStart]
  dsimp only
  rw [unread, Bool.and_false]
  rfl

end Far

end BearerGate.Label
