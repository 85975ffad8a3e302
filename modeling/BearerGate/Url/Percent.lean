import BearerGate.Number.Reading
import BearerGate.Text.Utf8

/-!
# Percent escapes

Characters that may not stand in a part of an address are written as escapes of their UTF-8 bytes, `%`
and two hexadecimal digits.  Which characters those are depends on the part; control characters and
everything outside ASCII are always among them.
-/

namespace BearerGate.Percent

/-- A hexadecimal digit in upper case. -/
def upperHex (n : Nat) : Char :=
  if n < 10 then Char.ofNat (n + 48) else Char.ofNat (n + 55)

/-- The escape of one byte. -/
def escapeByte (b : UInt8) : List Char := ['%', upperHex (b.toNat / 16), upperHex (b.toNat % 16)]

/-- The escapes of one character. -/
def escapeChar (c : Char) : List Char := (Text.Utf8.encode (String.ofList [c])).flatMap escapeByte

/-- Characters that are escaped in every part. -/
def isControl (c : Char) : Bool := c.toNat < 0x20 || 0x7e < c.toNat

def inFragment (c : Char) : Bool := isControl c || " \"<>`".toList.contains c

def inQuery (c : Char) : Bool := isControl c || " \"#<>".toList.contains c

def inSpecialQuery (c : Char) : Bool := inQuery c || c = '\''

def inPath (c : Char) : Bool := inQuery c || "?`\x7b\x7d".toList.contains c

def inUserInfo (c : Char) : Bool := inPath c || "/:;=@[\\]^|".toList.contains c

/-- **Escapes the characters of a class,** and no others. -/
def encode (escaped : Char → Bool) (cs : List Char) : List Char :=
  cs.flatMap fun c => if escaped c then escapeChar c else [c]

/-- Replaces escapes by the bytes they stand for; a `%` that starts no escape stays. -/
def decodeBytes : List UInt8 → List UInt8
  | [] => []
  | 0x25 :: a :: b :: rest =>
    match Number.digit? 16 (Char.ofNat a.toNat), Number.digit? 16 (Char.ofNat b.toNat) with
    | some x, some y => UInt8.ofNat (x * 16 + y) :: decodeBytes rest
    | _, _ => 0x25 :: decodeBytes (a :: b :: rest)
  | c :: rest => c :: decodeBytes rest

/-- **The text that a text with escapes stands for,** bytes that are not UTF-8 replaced. -/
def decode (s : String) : List Char := Text.Utf8.decode (decodeBytes (Text.Utf8.encode s))

end BearerGate.Percent
