import BearerGate.Proofs.Text.Utf8
import BearerGate.Url.Percent

/-!
# Escapes

What is written with escapes has none of the characters that are escaped (`not_escaped_of_mem_encode`), and writing
it once more changes nothing (`encode_eq_self`).  This holds for every class of characters that leaves the characters
of the escapes alone (`Escapable`), and all classes of this library do.
-/

namespace BearerGate.Percent

/-- **A class of characters that can be escaped:** the escapes are not in it, and everything that no part of an
address can hold is. -/
structure Escapable (escaped : Char → Bool) : Prop where
  percent : escaped '%' = false
  digit : ∀ n < 16, escaped (upperHex n) = false
  blank : escaped ' ' = true
  control : ∀ c, isControl c = true → escaped c = true

theorem escapable_inFragment : Escapable inFragment where
  percent := by decide
  digit := by decide
  blank := by decide
  control := fun c control => by rw [inFragment, control, Bool.true_or]

theorem escapable_inQuery : Escapable inQuery where
  percent := by decide
  digit := by decide
  blank := by decide
  control := fun c control => by rw [inQuery, control, Bool.true_or]

theorem escapable_inSpecialQuery : Escapable inSpecialQuery where
  percent := by decide
  digit := by decide
  blank := by decide
  control := fun c control => by rw [inSpecialQuery, escapable_inQuery.control c control, Bool.true_or]

theorem escapable_inPath : Escapable inPath where
  percent := by decide
  digit := by decide
  blank := by decide
  control := fun c control => by rw [inPath, escapable_inQuery.control c control, Bool.true_or]

theorem escapable_inUserInfo : Escapable inUserInfo where
  percent := by decide
  digit := by decide
  blank := by decide
  control := fun c control => by rw [inUserInfo, escapable_inPath.control c control, Bool.true_or]

/-- A character that need not be escaped is a visible one. -/
theorem Escapable.visible {escaped : Char → Bool} (fine : Escapable escaped) {c : Char} (plain : escaped c = false) :
    0x20 < c.toNat ∧ c.toNat ≤ 0x7e := by
  have no_control : isControl c = false := by
    refine Bool.eq_false_iff.2 fun control => ?_
    rw [fine.control c control] at plain
    cases plain
  have no_blank : c.toNat ≠ 0x20 := by
    intro blank
    have same : c = ' ' := by
      rw [← Char.ofNat_toNat c, blank]
    rw [same, fine.blank] at plain
    cases plain
  simp only [isControl, Bool.or_eq_false_iff, decide_eq_false_iff_not, Nat.not_lt] at no_control
  omega

/-! ### What escapes are made of -/

theorem mem_escapeByte {b : UInt8} {c : Char} (member : c ∈ escapeByte b) : c = '%' ∨ ∃ n < 16, c = upperHex n := by
  have small : b.toNat < 256 := UInt8.toNat_lt b
  simp only [escapeByte, List.mem_cons, List.not_mem_nil, or_false] at member
  rcases member with rfl | rfl | rfl
  · exact .inl rfl
  · exact .inr ⟨_, by omega, rfl⟩
  · exact .inr ⟨_, by omega, rfl⟩

theorem mem_escapeChar {c d : Char} (member : c ∈ escapeChar d) : c = '%' ∨ ∃ n < 16, c = upperHex n := by
  obtain ⟨b, -, there⟩ := List.mem_flatMap.1 member
  exact mem_escapeByte there

section Encode

variable {escaped : Char → Bool} {cs : List Char}

/-- Every character of what is written is there from the start or belongs to an escape. -/
theorem mem_encode {c : Char} (member : c ∈ encode escaped cs) :
    (c ∈ cs ∧ escaped c = false) ∨ c = '%' ∨ ∃ n < 16, c = upperHex n := by
  obtain ⟨d, there, written⟩ := List.mem_flatMap.1 member
  split at written
  · exact .inr (mem_escapeChar written)
  · rename_i plain
    rw [List.mem_singleton.1 written]
    exact .inl ⟨there, Bool.eq_false_iff.2 plain⟩

/-- **What is written with escapes has nothing left to escape.** -/
theorem not_escaped_of_mem_encode (fine : Escapable escaped) {c : Char} (member : c ∈ encode escaped cs) :
    escaped c = false := by
  rcases mem_encode member with ⟨-, plain⟩ | rfl | ⟨n, small, rfl⟩
  · exact plain
  · exact fine.percent
  · exact fine.digit n small

/-- **What has nothing to escape is written as it is.** -/
theorem encode_eq_self (plain : ∀ c ∈ cs, escaped c = false) : encode escaped cs = cs := by
  induction cs with
  | nil => rfl
  | cons c cs ih =>
    have first : escaped c = false := plain c List.mem_cons_self
    have rest := ih fun d member => plain d (List.mem_cons_of_mem c member)
    rw [encode, List.flatMap_cons, if_neg (by rw [first]; decide)]
    exact congrArg (c :: ·) rest

/-- A character that no escape holds is written only where it stood. -/
theorem mem_of_mem_encode {c : Char} (other : c ≠ '%' ∧ ∀ n < 16, c ≠ upperHex n) (member : c ∈ encode escaped cs) :
    c ∈ cs := by
  rcases mem_encode member with ⟨there, -⟩ | percent | ⟨n, small, digit⟩
  · exact there
  · exact absurd percent other.1
  · exact absurd digit (other.2 n small)

end Encode

/-! ### Text without escapes -/

/-- Without percent signs there are no escapes. -/
theorem decodeBytes_eq_self {bytes : List UInt8} (plain : ∀ b ∈ bytes, b ≠ 0x25) : decodeBytes bytes = bytes := by
  induction bytes with
  | nil => rfl
  | cons b bytes ih =>
    rw [decodeBytes, ih fun c member => plain c (List.mem_cons_of_mem _ member)]
    exact fun _ _ _ same _ => plain b List.mem_cons_self same

/-- **Text without escapes stands for itself.** -/
theorem decode_ofList {cs : List Char} (plain : '%' ∉ cs) : decode (String.ofList cs) = cs := by
  have bytes : ∀ b ∈ cs.flatMap String.utf8EncodeChar, b ≠ 0x25 := by
    rintro b member rfl
    obtain ⟨c, there, inside⟩ := List.mem_flatMap.1 member
    rcases Nat.lt_or_ge c.toNat 0x80 with ascii | wide
    · rw [Text.Utf8.encodeChar_ascii ascii, List.mem_singleton] at inside
      have code := congrArg UInt8.toNat inside
      rw [Text.Utf8.toNat_ofNat (Nat.lt_trans ascii (by decide))] at code
      have percent : c = '%' := by rw [← Char.ofNat_toNat c, ← code]; rfl
      exact plain (percent ▸ there)
    · exact absurd (Text.Utf8.mem_encodeChar wide inside) (by decide)
  rw [decode, Text.Utf8.encode_ofList, decodeBytes_eq_self bytes, ← Text.Utf8.encode_ofList, Text.Utf8.decode_encode]

end BearerGate.Percent
