import BearerGate.Json.Basic
import BearerGate.Number.Reading

/-!
# Values of JSON texts

`Json.parse?` reads a JSON text by the strict grammar: one value with blanks around it, numbers without
leading zeros or a bare point, no comma after a last element, no control character inside a string.

Every reading function takes the characters and answers what it read with the characters that follow.
The three that call each other count down a depth, which the length of the text bounds.
-/

namespace BearerGate.Json

/-- The four blanks of the grammar. -/
def isSpace (c : Char) : Bool := c = ' ' || c = '\n' || c = '\r' || c = '\t'

def skipSpace (cs : List Char) : List Char := cs.dropWhile isSpace

/-! ### Strings -/

/-- The value of four hexadecimal digits at the start. -/
def takeHexFour? : List Char → Option (Nat × List Char)
  | a :: b :: c :: d :: rest =>
    match Number.digit? 16 a, Number.digit? 16 b, Number.digit? 16 c, Number.digit? 16 d with
    | some a, some b, some c, some d => some (a * 4096 + b * 256 + c * 16 + d, rest)
    | _, _, _, _ => none
  | _ => none

/-- The character that stands after a backslash, the form with digits apart. -/
def simpleEscape? (c : Char) : Option Char :=
  if c = '"' ∨ c = '\\' ∨ c = '/' then some c
  else if c = 'b' then some '\x08'
  else if c = 'f' then some '\x0c'
  else if c = 'n' then some '\n'
  else if c = 'r' then some '\r'
  else if c = 't' then some '\t'
  else none

/-- The character of two surrogate units. -/
def joinSurrogates (high low : Nat) : Char :=
  Char.ofNat (0x10000 + (high - 0xd800) * 0x400 + (low - 0xdc00))

def isHighSurrogate (n : Nat) : Bool := 0xd800 ≤ n && n < 0xdc00
def isLowSurrogate (n : Nat) : Bool := 0xdc00 ≤ n && n < 0xe000

/-- Reads the rest of an escape after the backslash.  Two escapes that are a surrogate pair are one
character; a surrogate alone is no character and becomes U+FFFD. -/
def takeEscape? : List Char → Option (Char × List Char)
  | 'u' :: cs =>
    match takeHexFour? cs with
    | none => none
    | some (n, rest) =>
      if isHighSurrogate n then
        match rest with
        | '\\' :: 'u' :: more =>
          match takeHexFour? more with
          | some (m, rest') =>
            if isLowSurrogate m then some (joinSurrogates n m, rest') else some ('\ufffd', rest)
          | none => some ('\ufffd', rest)
        | _ => some ('\ufffd', rest)
      else if isLowSurrogate n then some ('\ufffd', rest)
      else some (Char.ofNat n, rest)
  | c :: cs => (simpleEscape? c).map (·, cs)
  | [] => none

/-- Reads characters up to the closing quote; `read` holds those read so far, the last one first. -/
def takeStringTail? : (depth : Nat) → (read text : List Char) → Option (String × List Char)
  | 0, _, _ => none
  | depth + 1, read, text =>
    match text with
    | [] => none
    | '"' :: cs => some (String.ofList read.reverse, cs)
    | '\\' :: cs =>
      match takeEscape? cs with
      | some (c, rest) => takeStringTail? depth (c :: read) rest
      | none => none
    | c :: cs => if c.toNat < 32 then none else takeStringTail? depth (c :: read) cs

/-- Reads a string whose opening quote is already read. -/
def takeString? (cs : List Char) : Option (String × List Char) :=
  takeStringTail? (cs.length + 1) [] cs

/-! ### Numbers -/

/-- Reads the fraction part, possibly none; a point needs a digit after it. -/
def takeFraction? : List Char → Option (List Char × List Char)
  | '.' :: cs =>
    let ds := cs.takeWhile Char.isDigit
    if ds = [] then none else some (ds, cs.dropWhile Char.isDigit)
  | cs => some ([], cs)

/-- Reads the exponent part, possibly none; its letter needs a digit after the sign. -/
def takeExponent? : List Char → Option (Int × List Char)
  | [] => some (0, [])
  | c :: cs =>
    if c = 'e' ∨ c = 'E' then
      let (negative, unsigned) := Number.takeSign cs
      let ds := unsigned.takeWhile Char.isDigit
      if ds = [] then none
      else
        let n : Int := Number.digitsValue 10 ds
        some (if negative then -n else n, unsigned.dropWhile Char.isDigit)
    else some (0, c :: cs)

/-- Reads an unsigned number. -/
def takeUnsigned? (negative : Bool) (cs : List Char) : Option (Number × List Char) :=
  let whole := cs.takeWhile Char.isDigit
  if whole = [] ∨ (whole.head? = some '0' ∧ whole.length ≠ 1) then none
  else
    match takeFraction? (cs.dropWhile Char.isDigit) with
    | none => none
    | some (fraction, rest) =>
      match takeExponent? rest with
      | none => none
      | some (e, rest) =>
        some (.ofDecimal negative (Number.digitsValue 10 (whole ++ fraction)) (e - fraction.length),
          rest)

def takeNumber? : List Char → Option (Number × List Char)
  | '-' :: cs => takeUnsigned? true cs
  | cs => takeUnsigned? false cs

/-! ### Values -/

/-- Reads a fixed word. -/
def takeWord? (word : String) (value : Json) (cs : List Char) : Option (Json × List Char) :=
  let letters := word.toList
  if letters.isPrefixOf cs then some (value, cs.drop letters.length) else none

mutual

/-- Reads a value; blanks before it are skipped. -/
def takeValue? : (depth : Nat) → List Char → Option (Json × List Char)
  | 0, _ => none
  | depth + 1, text =>
    match skipSpace text with
    | [] => none
    | '"' :: cs => (takeString? cs).map fun (s, rest) => (string s, rest)
    | '[' :: cs =>
      match skipSpace cs with
      | ']' :: rest => some (array [], rest)
      | _ => (takeElements? depth [] cs).map fun (js, rest) => (array js, rest)
    | '\x7b' :: cs =>
      match skipSpace cs with
      | '\x7d' :: rest => some (object [], rest)
      | _ => (takeMembers? depth [] cs).map fun (ms, rest) => (ofMembers ms, rest)
    | 't' :: cs => takeWord? "true" (bool true) ('t' :: cs)
    | 'f' :: cs => takeWord? "false" (bool false) ('f' :: cs)
    | 'n' :: cs => takeWord? "null" null ('n' :: cs)
    | cs => (takeNumber? cs).map fun (n, rest) => (number n, rest)

/-- Reads the elements of an array up to its closing bracket; `read` holds the earlier ones. -/
def takeElements? : (depth : Nat) → (read : List Json) → List Char → Option (List Json × List Char)
  | 0, _, _ => none
  | depth + 1, read, text =>
    match takeValue? depth text with
    | none => none
    | some (j, rest) =>
      match skipSpace rest with
      | ',' :: cs => takeElements? depth (j :: read) cs
      | ']' :: cs => some ((j :: read).reverse, cs)
      | _ => none

/-- Reads the members of an object up to its closing brace; `read` holds the earlier ones. -/
def takeMembers? : (depth : Nat) → (read : List (String × Json)) → List Char →
    Option (List (String × Json) × List Char)
  | 0, _, _ => none
  | depth + 1, read, text =>
    match skipSpace text with
    | '"' :: cs =>
      match takeString? cs with
      | none => none
      | some (name, rest) =>
        match skipSpace rest with
        | ':' :: cs =>
          match takeValue? depth cs with
          | none => none
          | some (j, rest) =>
            match skipSpace rest with
            | ',' :: cs => takeMembers? depth ((name, j) :: read) cs
            | '\x7d' :: cs => some (((name, j) :: read).reverse, cs)
            | _ => none
        | _ => none
    | _ => none

end

/-- Reads a JSON text from its characters. -/
def parseChars? (cs : List Char) : Option Json :=
  match takeValue? (cs.length + 1) cs with
  | some (j, rest) => if skipSpace rest = [] then some j else none
  | none => none

/-- **Reading a JSON text.** -/
def parse? (s : String) : Option Json := parseChars? s.toList

end BearerGate.Json
