/-!
# Reading UTF-8

Bytes become characters; bytes that are not UTF-8 become U+FFFD, one for each maximal part that could
have started a character.  `decode` keeps a **pending** character while its later bytes are still to
come: a byte outside the range allowed at its place ends the pending character with one U+FFFD and is
then read afresh.

`decodeText` also drops one byte order mark at the start, as readers of whole documents do;
`decodeBody` drops a second one, which stands for itself when a body is handed over as a text.
-/

namespace BearerGate.Text.Utf8

/-- A character whose later bytes are still to come. -/
structure Pending where
  /-- The bits read so far. -/
  bits : Nat
  /-- How many bytes are missing. -/
  missing : Nat
  /-- The least value of the next byte. -/
  low : Nat := 0x80
  /-- The greatest value of the next byte. -/
  high : Nat := 0xbf

/-- What the first byte of a character says. -/
inductive Lead where
  | char (c : Char)
  | pending (p : Pending)

def replacement : Char := '\ufffd'

/-- Reads the first byte of a character.  The ranges of the second byte exclude overlong forms, the
surrogates and values past U+10FFFF. -/
def lead (b : Nat) : Lead :=
  if b < 0x80 then .char (Char.ofNat b)
  else if b < 0xc2 then .char replacement
  else if b < 0xe0 then .pending { bits := b - 0xc0, missing := 1 }
  else if b = 0xe0 then .pending { bits := 0, missing := 2, low := 0xa0 }
  else if b = 0xed then .pending { bits := 0xd, missing := 2, high := 0x9f }
  else if b < 0xf0 then .pending { bits := b - 0xe0, missing := 2 }
  else if b = 0xf0 then .pending { bits := 0, missing := 3, low := 0x90 }
  else if b < 0xf4 then .pending { bits := b - 0xf0, missing := 3 }
  else if b = 0xf4 then .pending { bits := 4, missing := 3, high := 0x8f }
  else .char replacement

mutual

/-- Reads bytes at the start of a character. -/
def decode : List UInt8 → List Char
  | [] => []
  | b :: bs =>
    match lead b.toNat with
    | .char c => c :: decode bs
    | .pending p => decodePending p bs

/-- Reads bytes inside a character. -/
def decodePending (p : Pending) : List UInt8 → List Char
  | [] => [replacement]
  | b :: bs =>
    if p.low ≤ b.toNat ∧ b.toNat ≤ p.high then
      let bits := p.bits * 64 + (b.toNat - 0x80)
      if p.missing ≤ 1 then Char.ofNat bits :: decode bs
      else decodePending { bits, missing := p.missing - 1 } bs
    else
      match lead b.toNat with
      | .char c => replacement :: c :: decode bs
      | .pending q => replacement :: decodePending q bs

end

/-- Drops one byte order mark at the start. -/
def dropMark : List Char → List Char
  | '\ufeff' :: cs => cs
  | cs => cs

/-- **The text of a document:** its characters after an optional byte order mark. -/
def decodeText (bytes : List UInt8) : List Char := dropMark (decode bytes)

/-- **The text of a body that was fetched:** its characters after at most two byte order marks. -/
def decodeBody (bytes : List UInt8) : List Char := dropMark (decodeText bytes)

/-- The bytes of a text. -/
def encode (s : String) : List UInt8 := s.toUTF8.toList

end BearerGate.Text.Utf8
