import BearerGate.Number.Decimal
import BearerGate.Text.Blank

/-!
# Numbers from text

`Number.ofText` reads the number that a setting or a path segment is meant to be.  Blanks around it do
not count and an empty text is zero.  A decimal may have a sign, a point with digits on at least one
side, and an exponent; `Infinity` may have a sign.  After `0x`, `0o` or `0b` (either letter case, no
sign) stand digits of base 16, 8 or 2.  Any other text is `nan`.
-/

namespace BearerGate.Number

/-- The value of a digit in a base up to 16. -/
def digit? (base : Nat) (c : Char) : Option Nat :=
  let value :=
    if '0' ≤ c ∧ c ≤ '9' then c.toNat - 48
    else if 'a' ≤ c ∧ c ≤ 'f' then c.toNat - 87
    else if 'A' ≤ c ∧ c ≤ 'F' then c.toNat - 55
    else base
  if value < base then some value else none

/-- The value of decimal digits; other characters count as zero. -/
def digitsValue (base : Nat) (cs : List Char) : Nat :=
  cs.foldl (fun n c => n * base + (digit? base c).getD 0) 0

/-- The number written by digits of a base, at least one and nothing else. -/
def ofDigits (base : Nat) (cs : List Char) : Number :=
  if cs ≠ [] ∧ cs.all (fun c => (digit? base c).isSome) then ofNat (digitsValue base cs) else nan

/-- Reads the sign at the start of a list of characters; `true` is minus. -/
def takeSign : List Char → Bool × List Char
  | '-' :: cs => (true, cs)
  | '+' :: cs => (false, cs)
  | cs => (false, cs)

/-- Reads an exponent part that fills the list: nothing, or `e`, a sign and digits. -/
def exponent? : List Char → Option Int
  | [] => some 0
  | c :: cs =>
    if c = 'e' ∨ c = 'E' then
      let (negative, ds) := takeSign cs
      if ds ≠ [] ∧ ds.all Char.isDigit then
        let n : Int := digitsValue 10 ds
        some (if negative then -n else n)
      else none
    else none

/-- Reads an unsigned decimal that fills the list. -/
def ofDecimalText (negative : Bool) (cs : List Char) : Number :=
  let whole := cs.takeWhile Char.isDigit
  let rest := cs.dropWhile Char.isDigit
  let (fraction, rest) :=
    match rest with
    | '.' :: ds => (ds.takeWhile Char.isDigit, ds.dropWhile Char.isDigit)
    | _ => ([], rest)
  if whole = [] ∧ fraction = [] then nan
  else
    match exponent? rest with
    | none => nan
    | some e => ofDecimal negative (digitsValue 10 (whole ++ fraction)) (e - fraction.length)

/-- **Reading a text as a number.** -/
def ofText (s : String) : Number :=
  match Text.trimChars Text.isBlank s.toList with
  | [] => 0
  | '0' :: 'x' :: cs | '0' :: 'X' :: cs => ofDigits 16 cs
  | '0' :: 'o' :: cs | '0' :: 'O' :: cs => ofDigits 8 cs
  | '0' :: 'b' :: cs | '0' :: 'B' :: cs => ofDigits 2 cs
  | cs =>
    let (negative, unsigned) := takeSign cs
    if unsigned = "Infinity".toList then infinite negative else ofDecimalText negative unsigned

end BearerGate.Number
