import Mathlib
import BearerGate.Text.Utf8

/-!
# The bytes of a text

Reading the bytes of a text gives the text back (`decode_encode`): a character is written as one to four bytes,
its first byte says how many follow and which range the second one is in, and the pending bits are put together to
the character again.  A byte outside the ASCII range never stands for a character inside it (`mem_encodeChar`).
-/

namespace BearerGate.Text.Utf8

/-! ### Lists of bytes -/

theorem toList_loop (bytes : ByteArray) (i : Nat) (read : List UInt8) :
    ByteArray.toList.loop bytes i read = read.reverse ++ bytes.data.toList.drop i := by
  induction h : bytes.size - i generalizing i read with
  | zero =>
    have past : bytes.data.toList.length ≤ i := by
      rw [Array.length_toList]
      change bytes.size ≤ i
      omega
    rw [ByteArray.toList.loop, if_neg (by omega), List.drop_eq_nil_of_le past, List.append_nil]
  | succ n ih =>
    have inside : i < bytes.size := by omega
    have there : i < bytes.data.toList.length := by
      rw [Array.length_toList]
      exact inside
    have first : bytes.get! i = bytes.data.toList[i] := by
      rw [Array.getElem_toList]
      change bytes.data[i]! = _
      exact getElem!_pos bytes.data i inside
    rw [ByteArray.toList.loop, if_pos inside, ih _ _ (by omega), List.reverse_cons, List.append_assoc, first,
      List.singleton_append, ← List.drop_eq_getElem_cons there]

theorem toList_toByteArray (bytes : List UInt8) : bytes.toByteArray.toList = bytes := by
  have whole : bytes.toByteArray.toList = bytes.toByteArray.data.toList := by
    rw [ByteArray.toList, toList_loop]
    rfl
  rw [whole]
  apply List.ext_getElem
  · rw [Array.length_toList]
    exact List.size_toByteArray
  · intro i inside there
    rw [Array.getElem_toList]
    exact List.getElem_toByteArray

/-! ### Writing characters -/

/-- **The bytes of a text** are those of its characters. -/
theorem encode_ofList (cs : List Char) : encode (String.ofList cs) = cs.flatMap String.utf8EncodeChar := by
  rw [encode, String.toUTF8_eq_toByteArray, String.toByteArray_ofList, List.utf8Encode, toList_toByteArray]

theorem encodeChar_ascii {c : Char} (ascii : c.toNat < 0x80) : String.utf8EncodeChar c = [UInt8.ofNat c.toNat] := by
  have small : c.val.toNat ≤ 127 := Nat.le_of_lt_succ ascii
  rw [String.utf8EncodeChar]
  exact if_pos small

theorem toNat_ofNat {n : Nat} (small : n < 256) : (UInt8.ofNat n).toNat = n := UInt8.toNat_ofNat_of_lt' small

/-- **The bytes of a character outside the ASCII range** are all outside of it. -/
theorem mem_encodeChar {c : Char} (wide : 0x80 ≤ c.toNat) {b : UInt8} (member : b ∈ String.utf8EncodeChar c) :
    0x80 ≤ b.toNat := by
  have large : ¬c.val.toNat ≤ 127 := Nat.not_le.2 wide
  rw [String.utf8EncodeChar] at member
  rw [if_neg large] at member
  split at member
  · rcases List.mem_pair.1 member with rfl | rfl
    · rw [toNat_ofNat (by omega)]
      omega
    · rw [toNat_ofNat (by omega)]
      omega
  · split at member
    · simp only [List.mem_cons, List.not_mem_nil, or_false] at member
      rcases member with rfl | rfl | rfl
      all_goals
        rw [toNat_ofNat (by omega)]
        omega
    · simp only [List.mem_cons, List.not_mem_nil, or_false] at member
      rcases member with rfl | rfl | rfl | rfl
      all_goals
        rw [toNat_ofNat (by omega)]
        omega

/-! ### Reading them again -/

/-- A byte that is in range goes on with the pending character. -/
theorem decodePending_more {p : Pending} {n : Nat} (small : n < 256) (low : p.low ≤ n) (high : n ≤ p.high)
    (more : 1 < p.missing) (rest : List UInt8) :
    decodePending p (UInt8.ofNat n :: rest) =
      decodePending { bits := p.bits * 64 + (n - 0x80), missing := p.missing - 1 } rest := by
  rw [decodePending, toNat_ofNat small, if_pos ⟨low, high⟩]
  dsimp only
  rw [if_neg (by omega)]

/-- The last byte completes it. -/
theorem decodePending_last {p : Pending} {n : Nat} (small : n < 256) (low : p.low ≤ n) (high : n ≤ p.high)
    (last : p.missing = 1) (rest : List UInt8) :
    decodePending p (UInt8.ofNat n :: rest) = Char.ofNat (p.bits * 64 + (n - 0x80)) :: decode rest := by
  rw [decodePending, toNat_ofNat small, if_pos ⟨low, high⟩]
  dsimp only
  rw [if_pos (by omega)]

theorem decode_pending {n : Nat} (small : n < 256) {p : Pending} (leads : lead n = .pending p) (rest : List UInt8) :
    decode (UInt8.ofNat n :: rest) = decodePending p rest := by
  rw [decode, toNat_ofNat small, leads]

/-- The first of three bytes says which the second may be: none that would make the character too short or half of
a pair. -/
theorem lead_three {v : Nat} (two : 2047 < v) (three : v ≤ 65535)
    (valid : v < 0xd800 ∨ 0xdfff < v ∧ v < 0x110000) :
    ∃ p, lead (v / 4096 % 16 + 224) = .pending p ∧
    p.bits = v / 4096 ∧ p.missing = 2 ∧ p.low ≤ v / 64 % 64 + 128 ∧ v / 64 % 64 + 128 ≤ p.high := by
  by_cases first : v / 4096 = 0
  · refine ⟨{ bits := 0, missing := 2, low := 0xa0 }, ?_, ?_, rfl, ?_, ?_⟩
    · rw [lead, if_neg (by omega), if_neg (by omega), if_neg (by omega), if_pos (by omega)]
    · change 0 = _
      omega
    · change 0xa0 ≤ _
      omega
    · change _ ≤ 0xbf
      omega
  by_cases surrogate : v / 4096 = 13
  · refine ⟨{ bits := 0xd, missing := 2, high := 0x9f }, ?_, ?_, rfl, ?_, ?_⟩
    · rw [lead, if_neg (by omega), if_neg (by omega), if_neg (by omega), if_neg (by omega), if_pos (by omega)]
    · change 13 = _
      omega
    · change 0x80 ≤ _
      omega
    · change _ ≤ 0x9f
      omega
  refine ⟨{ bits := v / 4096 % 16 + 224 - 0xe0, missing := 2 }, ?_, ?_, rfl, ?_, ?_⟩
  · rw [lead, if_neg (by omega), if_neg (by omega), if_neg (by omega), if_neg (by omega), if_neg (by omega),
      if_pos (by omega)]
  · change v / 4096 % 16 + 224 - 0xe0 = _
    omega
  · change 0x80 ≤ _
    omega
  · change _ ≤ 0xbf
    omega

/-- The first of four bytes likewise: none that would make it too short or too large. -/
theorem lead_four {v : Nat} (three : 65535 < v) (top : v < 0x110000) :
    ∃ p, lead (v / 262144 % 8 + 240) = .pending p ∧
    p.bits = v / 262144 ∧ p.missing = 3 ∧ p.low ≤ v / 4096 % 64 + 128 ∧ v / 4096 % 64 + 128 ≤ p.high := by
  by_cases first : v / 262144 = 0
  · refine ⟨{ bits := 0, missing := 3, low := 0x90 }, ?_, ?_, rfl, ?_, ?_⟩
    · rw [lead, if_neg (by omega), if_neg (by omega), if_neg (by omega), if_neg (by omega), if_neg (by omega),
        if_neg (by omega), if_pos (by omega)]
    · change 0 = _
      omega
    · change 0x90 ≤ _
      omega
    · change _ ≤ 0xbf
      omega
  by_cases highest : v / 262144 = 4
  · refine ⟨{ bits := 4, missing := 3, high := 0x8f }, ?_, ?_, rfl, ?_, ?_⟩
    · rw [lead, if_neg (by omega), if_neg (by omega), if_neg (by omega), if_neg (by omega), if_neg (by omega),
        if_neg (by omega), if_neg (by omega), if_neg (by omega), if_pos (by omega)]
    · change 4 = _
      omega
    · change 0x80 ≤ _
      omega
    · change _ ≤ 0x8f
      omega
  refine ⟨{ bits := v / 262144 % 8 + 240 - 0xf0, missing := 3 }, ?_, ?_, rfl, ?_, ?_⟩
  · rw [lead, if_neg (by omega), if_neg (by omega), if_neg (by omega), if_neg (by omega), if_neg (by omega),
      if_neg (by omega), if_neg (by omega), if_pos (by omega)]
  · change v / 262144 % 8 + 240 - 0xf0 = _
    omega
  · change 0x80 ≤ _
    omega
  · change _ ≤ 0xbf
    omega

/-- **A character is read back** from the bytes that it is written as. -/
theorem decode_encodeChar (c : Char) (rest : List UInt8) :
    decode (String.utf8EncodeChar c ++ rest) = c :: decode rest := by
  have valid : c.val.toNat < 0xd800 ∨ 0xdfff < c.val.toNat ∧ c.val.toNat < 0x110000 := c.valid
  have same : ∀ n, n = c.val.toNat → Char.ofNat n = c := fun n eq => by rw [eq]; exact Char.ofNat_toNat c
  rw [String.utf8EncodeChar]
  generalize c.val.toNat = v at valid same
  by_cases one : v ≤ 127
  · rw [if_pos one, List.singleton_append, decode, toNat_ofNat (by omega), lead, if_pos (by omega)]
    dsimp only
    rw [same v rfl]
  rw [if_neg one]
  by_cases two : v ≤ 2047
  · rw [if_pos two]
    have leads : lead (v / 64 % 32 + 192) = .pending { bits := v / 64 % 32 + 192 - 0xc0, missing := 1 } := by
      rw [lead, if_neg (by omega), if_neg (by omega), if_pos (by omega)]
    change decode (UInt8.ofNat _ :: (_ :: rest)) = _
    rw [decode_pending (by omega) leads]
    change decodePending _ (UInt8.ofNat (v % 64 + 128) :: rest) = _
    rw [decodePending_last (by omega) (by change 0x80 ≤ _; omega) (by change _ ≤ 0xbf; omega) rfl]
    dsimp only
    rw [same _ (by omega)]
  rw [if_neg two]
  by_cases three : v ≤ 65535
  · rw [if_pos three]
    obtain ⟨p, leads, bits, missing, low, high⟩ := lead_three (by omega) three valid
    change decode (UInt8.ofNat _ :: (_ :: _ :: rest)) = _
    rw [decode_pending (by omega) leads]
    change decodePending _ (UInt8.ofNat (v / 64 % 64 + 128) :: _) = _
    rw [decodePending_more (by omega) low high (by omega)]
    change decodePending _ (UInt8.ofNat (v % 64 + 128) :: _) = _
    rw [decodePending_last (by omega) (by change 0x80 ≤ _; omega) (by change _ ≤ 0xbf; omega)
      (by change p.missing - 1 = 1; omega)]
    dsimp only
    rw [same _ (by omega)]
  rw [if_neg three]
  obtain ⟨p, leads, bits, missing, low, high⟩ := lead_four (Nat.not_le.1 three) (by omega)
  change decode (UInt8.ofNat _ :: (_ :: _ :: _ :: rest)) = _
  rw [decode_pending (by omega) leads]
  change decodePending _ (UInt8.ofNat (v / 4096 % 64 + 128) :: _) = _
  rw [decodePending_more (by omega) low high (by omega)]
  change decodePending _ (UInt8.ofNat (v / 64 % 64 + 128) :: _) = _
  rw [decodePending_more (by omega) (by change 0x80 ≤ _; omega) (by change _ ≤ 0xbf; omega)
    (by change 1 < p.missing - 1; omega)]
  change decodePending _ (UInt8.ofNat (v % 64 + 128) :: _) = _
  rw [decodePending_last (by omega) (by change 0x80 ≤ _; omega) (by change _ ≤ 0xbf; omega)
    (by change p.missing - 1 - 1 = 1; omega)]
  dsimp only
  rw [same _ (by omega)]

/-- **Reading the bytes of a text gives the text.** -/
theorem decode_encode (cs : List Char) : decode (encode (String.ofList cs)) = cs := by
  rw [encode_ofList]
  induction cs with
  | nil => rfl
  | cons c cs ih => rw [List.flatMap_cons, decode_encodeChar, ih]

end BearerGate.Text.Utf8
