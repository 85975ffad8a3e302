import BearerGate.Text.Units

/-!
# Base64url

Six bits a character.  Reading is lenient and never fails: both alphabets are taken (`+/` and `-_`), any
other code is skipped, the first `=` ends the text, and bits that do not fill a byte are dropped.  What
is read are the low bytes of the 16-bit units of a text, so a character past U+00FF may stand for one of
the alphabet or end the text.  Writing uses the alphabet with `-` and `_` and no padding.
-/

namespace BearerGate.Text.Base64url

/-- The value of a code of either alphabet. -/
def sextet? (n : Nat) : Option Nat :=
  if 65 ≤ n ∧ n ≤ 90 then some (n - 65)
  else if 97 ≤ n ∧ n ≤ 122 then some (n - 71)
  else if 48 ≤ n ∧ n ≤ 57 then some (n + 4)
  else if n = 45 ∨ n = 43 then some 62
  else if n = 95 ∨ n = 47 then some 63
  else none

/-- The character of a value below 64. -/
def char (n : Nat) : Char :=
  if n < 26 then Char.ofNat (n + 65)
  else if n < 52 then Char.ofNat (n + 71)
  else if n < 62 then Char.ofNat (n - 4)
  else if n = 62 then '-'
  else '_'

/-- Packs values of six bits into bytes; what is left of an incomplete group is dropped. -/
def pack : List Nat → List UInt8
  | a :: b :: c :: d :: rest =>
    UInt8.ofNat (a * 4 + b / 16) :: UInt8.ofNat (b % 16 * 16 + c / 4) ::
      UInt8.ofNat (c % 4 * 64 + d) :: pack rest
  | [a, b, c] => [UInt8.ofNat (a * 4 + b / 16), UInt8.ofNat (b % 16 * 16 + c / 4)]
  | [a, b] => [UInt8.ofNat (a * 4 + b / 16)]
  | _ => []

/-- Cuts bytes into values of six bits; the last one is filled up with zero bits. -/
def unpack : List UInt8 → List Nat
  | a :: b :: c :: rest =>
    a.toNat / 4 :: (a.toNat % 4 * 16 + b.toNat / 16) :: (b.toNat % 16 * 4 + c.toNat / 64) ::
      c.toNat % 64 :: unpack rest
  | [a, b] => [a.toNat / 4, a.toNat % 4 * 16 + b.toNat / 16, b.toNat % 16 * 4]
  | [a] => [a.toNat / 4, a.toNat % 4 * 16]
  | [] => []

/-- The codes that a text is read by: the low bytes of its units. -/
def codes (s : String) : List Nat := (units s).map (· % 256)

/-- The code of `=`, which ends a text. -/
def endCode : Nat := 61

/-- **Reading,** never an error. -/
def decode (s : String) : List UInt8 :=
  pack (((codes s).takeWhile (· ≠ endCode)).filterMap sextet?)

/-- **Writing,** without padding. -/
def encode (bytes : List UInt8) : String :=
  String.ofList ((unpack bytes).map char)

end BearerGate.Text.Base64url
