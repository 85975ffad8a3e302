import BearerGate.Proofs.Text.Utf8
import BearerGate.Text.Base64url

/-!
# Reading what was written in base64url

Bytes have four standard writings: in one alphabet or the other, with the last group filled up by padding or not
(`written`).  Reading takes all of them back to the same bytes (`decode_written`).  Three facts carry this: a
character of either alphabet stands for its own value (`sextet?_char`), reading stops where the padding begins,
and groups of values that were cut from bytes pack into those bytes, also where the last group is incomplete
(`pack_unpack`).
-/

namespace BearerGate.Text.Base64url

/-! ### Writings -/

/-- The two alphabets, which differ in their last two characters. -/
inductive Alphabet where
  | web
  | plain
  deriving DecidableEq, Repr

/-- The character of a value below 64. -/
def Alphabet.char : Alphabet → Nat → Char
  | web, n => Base64url.char n
  | plain, n => if n = 62 then '+' else if n = 63 then '/' else Base64url.char n

/-- What fills the last group up to four characters. -/
def padding (bytes : List UInt8) : List Char := List.replicate ((3 - bytes.length % 3) % 3) '='

/-- **The standard writings of bytes.** -/
def written (alphabet : Alphabet) (padded : Bool) (bytes : List UInt8) : String :=
  String.ofList ((unpack bytes).map alphabet.char ++ if padded then padding bytes else [])

/-- One of them is how bytes are written here. -/
theorem written_web (bytes : List UInt8) : written .web false bytes = encode bytes := by
  rw [written, encode]
  exact congrArg String.ofList (List.append_nil _)

/-! ### Groups -/

/-- **Cutting bytes and packing the values** gives the bytes again. -/
theorem pack_unpack (bytes : List UInt8) : pack (unpack bytes) = bytes := by
  have byte : ∀ (b : UInt8) (n : Nat), n = b.toNat → UInt8.ofNat n = b := by
    rintro b _ rfl
    exact UInt8.ofNat_toNat
  induction bytes using unpack.induct with
  | case1 a b c rest ih =>
    have := a.toNat_lt
    have := b.toNat_lt
    have := c.toNat_lt
    rw [unpack, pack, ih, byte a _ (by omega), byte b _ (by omega), byte c _ (by omega)]
  | case2 a b =>
    have := a.toNat_lt
    have := b.toNat_lt
    rw [unpack, pack, byte a _ (by omega), byte b _ (by omega)]
  | case3 a =>
    have := a.toNat_lt
    rw [unpack, pack, byte a _ (by omega)]
  | case4 => rfl

/-- The values that bytes are cut into have six bits. -/
theorem lt_of_mem_unpack {bytes : List UInt8} : ∀ n ∈ unpack bytes, n < 64 := by
  induction bytes using unpack.induct with
  | case1 a b c rest ih =>
    have := a.toNat_lt
    have := b.toNat_lt
    have := c.toNat_lt
    intro n there
    simp only [unpack, List.mem_cons] at there
    rcases there with rfl | rfl | rfl | rfl | later
    · omega
    · omega
    · omega
    · omega
    · exact ih n later
  | case2 a b =>
    have := a.toNat_lt
    have := b.toNat_lt
    intro n there
    simp only [unpack, List.mem_cons, List.not_mem_nil, or_false] at there
    omega
  | case3 a =>
    have := a.toNat_lt
    intro n there
    simp only [unpack, List.mem_cons, List.not_mem_nil, or_false] at there
    omega
  | case4 =>
    intro n there
    cases there

theorem unpack_ne_nil {bytes : List UInt8} (some_there : bytes ≠ []) : unpack bytes ≠ [] := by
  cases bytes using unpack.fun_cases with
  | case4 => exact absurd rfl some_there
  | _ => simp [unpack]

/-! ### Characters -/

/-- **A character of either alphabet** stands for its own value. -/
theorem sextet?_char (alphabet : Alphabet) : ∀ n < 64, sextet? (alphabet.char n).toNat = some n := by
  cases alphabet <;> decide

/-- It is in the ASCII range, and neither ends a text nor a segment. -/
theorem char_plain (alphabet : Alphabet) :
    ∀ n < 64, (alphabet.char n).toNat < 128 ∧ (alphabet.char n).toNat ≠ endCode ∧ alphabet.char n ≠ '.' := by
  cases alphabet <;> decide

/-- Texts in the ASCII range are read by their own codes. -/
theorem codes_ofList {cs : List Char} (ascii : ∀ c ∈ cs, c.toNat < 128) :
    codes (String.ofList cs) = cs.map Char.toNat := by
  rw [codes, units, String.toList_ofList, List.map_flatMap, ← List.flatMap_singleton' (cs.map Char.toNat),
    List.flatMap_map]
  refine List.flatMap_congr fun c there => ?_
  have small := ascii c there
  rw [charUnits, if_pos (by omega), List.map_singleton, Nat.mod_eq_of_lt (by omega)]

theorem eq_of_mem_padding {bytes : List UInt8} {c : Char} (there : c ∈ padding bytes) : c = '=' :=
  (List.mem_replicate.1 there).2

theorem mem_written {alphabet : Alphabet} {padded : Bool} {bytes : List UInt8} {c : Char}
    (there : c ∈ (written alphabet padded bytes).toList) : c = '=' ∨ ∃ n < 64, c = alphabet.char n := by
  rw [written, String.toList_ofList] at there
  rcases List.mem_append.1 there with filled | pad
  · obtain ⟨n, cut, rfl⟩ := List.mem_map.1 filled
    exact .inr ⟨n, lt_of_mem_unpack n cut, rfl⟩
  · split at pad
    · exact .inl (eq_of_mem_padding pad)
    · cases pad

/-! ### Reading -/

/-- **Reading a standard writing** gives the bytes that were written. -/
theorem decode_written (alphabet : Alphabet) (padded : Bool) (bytes : List UInt8) :
    decode (written alphabet padded bytes) = bytes := by
  have ascii : ∀ c ∈ (written alphabet padded bytes).toList, c.toNat < 128 := by
    intro c there
    rcases mem_written there with rfl | ⟨n, small, rfl⟩
    · decide
    · exact (char_plain alphabet n small).1
  rw [written, String.toList_ofList] at ascii
  have kept : ∀ n ∈ ((unpack bytes).map alphabet.char).map Char.toNat, decide (n ≠ endCode) = true := by
    intro n there
    obtain ⟨c, filled, rfl⟩ := List.mem_map.1 there
    obtain ⟨m, cut, rfl⟩ := List.mem_map.1 filled
    exact decide_eq_true (char_plain alphabet m (lt_of_mem_unpack m cut)).2.1
  -- The padding is nothing, or it begins with the code that ends a text.
  have stopped : ((if padded then padding bytes else []).map Char.toNat).takeWhile (· ≠ endCode) = [] := by
    cases filled : (if padded then padding bytes else []) with
    | nil => rfl
    | cons c cs =>
      have pad : c = '=' := by
        split at filled
        · exact eq_of_mem_padding (by rw [filled]; exact List.mem_cons_self)
        · cases filled
      rw [pad]
      rfl
  have values : (((unpack bytes).map alphabet.char).map Char.toNat).filterMap sextet? = unpack bytes := by
    rw [List.map_map, List.filterMap_map]
    refine (List.filterMap_congr fun n cut => ?_).trans (List.filterMap_some)
    exact sextet?_char alphabet n (lt_of_mem_unpack n cut)
  rw [decode, written, codes_ofList ascii, List.map_append, List.takeWhile_append_of_pos kept, stopped,
    List.append_nil, values, pack_unpack]

/-- A standard writing has no points in it. -/
theorem not_mem_written (alphabet : Alphabet) (padded : Bool) (bytes : List UInt8) :
    '.' ∉ (written alphabet padded bytes).toList := by
  intro there
  rcases mem_written there with same | ⟨n, small, same⟩
  · cases same
  · exact (char_plain alphabet n small).2.2 same.symm

/-- Some bytes are written as some characters. -/
theorem written_ne_empty (alphabet : Alphabet) (padded : Bool) {bytes : List UInt8} (some_there : bytes ≠ []) :
    written alphabet padded bytes ≠ "" := by
  intro empty
  have chars := congrArg String.toList empty
  rw [written, String.toList_ofList] at chars
  exact unpack_ne_nil some_there (List.map_eq_nil_iff.1 (List.append_eq_nil_iff.1 chars).1)

end BearerGate.Text.Base64url
