import BearerGate.Text.Blank
import BearerGate.Url.Label
import BearerGate.Url.Percent

/-!
# Hosts

The host of a web address is a name, an IPv4 address or an IPv6 address in brackets.  A name is decoded
from escapes, mapped and written in ASCII; a name whose last label is a number has to be an IPv4 address,
whose parts may be missing or written in base 8 or 16.  Schemes that are not web schemes take any text
without separators for a host.
-/

namespace BearerGate.Host

/-- Characters that no host contains. -/
def isForbidden (c : Char) : Bool :=
  c = '\x00' || "\t\n\r #/:<>?@[\\]^|".toList.contains c

/-- Characters that no host name contains. -/
def isForbiddenInName (c : Char) : Bool :=
  isForbidden c || c.toNat < 0x20 || c = '%' || c = '\x7f'

/-! ### IPv4 -/

/-- The number of one part: base 16 after `0x`, base 8 after `0`, else base 10. -/
def ipv4Part? : List Char → Option Nat
  | [] => none
  | '0' :: 'x' :: cs | '0' :: 'X' :: cs => digitsIn 16 cs
  | '0' :: c :: cs => digitsIn 8 (c :: cs)
  | cs => digitsIn 10 cs
where
  digitsIn (base : Nat) (cs : List Char) : Option Nat :=
    if cs.all fun c => (Number.digit? base c).isSome then some (Number.digitsValue base cs) else none

/-- The parts of a name, an empty last one left out. -/
def labels (name : List Char) : List (List Char) :=
  let parts := Text.piecesBy (· = '.') name
  match parts.reverse with
  | [] :: front@(_ :: _) => front.reverse
  | _ => parts

/-- Whether the last label of a name is a number. -/
def endsInNumber (name : List Char) : Bool :=
  match (labels name).getLast? with
  | none => false
  | some last => (last ≠ [] && last.all Char.isDigit) || (ipv4Part? last).isSome

/-- **The IPv4 address of a name.**  All parts but the last are bytes; the last fills the rest. -/
def ipv4? (name : List Char) : Option Nat :=
  let parts := labels name
  if 4 < parts.length then none
  else
    match (parts.mapM ipv4Part?).map List.reverse with
    | some (last :: front) =>
      if front.all (· ≤ 255) ∧ last < Nat.pow 256 (4 - front.length) then
        some (front.reverse.zipIdx.foldl (fun acc (n, i) => acc + n * Nat.pow 256 (3 - i)) last)
      else none
    | _ => none

def renderIpv4 (n : Nat) : String :=
  toString (n / 16777216 % 256) ++ "." ++ toString (n / 65536 % 256) ++ "." ++
    toString (n / 256 % 256) ++ "." ++ toString (n % 256)

/-! ### IPv6 -/

/-- A group of up to four hexadecimal digits. -/
def ipv6Group? (cs : List Char) : Option Nat :=
  if cs ≠ [] ∧ cs.length ≤ 4 ∧ cs.all (fun c => (Number.digit? 16 c).isSome) then
    some (Number.digitsValue 16 cs)
  else none

/-- The two groups of an IPv4 address at the end; its parts are plain decimal bytes. -/
def ipv6Tail? (cs : List Char) : Option (List Nat) :=
  let part (p : List Char) : Option Nat :=
    if p ≠ [] ∧ p.length ≤ 3 ∧ p.all Char.isDigit ∧ (p.length = 1 ∨ p.head? ≠ some '0') then
      let n := Number.digitsValue 10 p
      if n ≤ 255 then some n else none
    else none
  match (Text.piecesBy (· = '.') cs).mapM part with
  | some [a, b, c, d] => some [a * 256 + b, c * 256 + d]
  | _ => none

/-- The groups of a text without `::`; nothing for an empty text. -/
def ipv6Groups? (cs : List Char) : Option (List Nat) :=
  if cs = [] then some []
  else
    let parts := Text.piecesBy (· = ':') cs
    match parts.reverse with
    | [] => none
    | last :: front => do
      let groups ← front.reverse.mapM ipv6Group?
      let ending ← if last.contains '.' then ipv6Tail? last else (ipv6Group? last).map ([·])
      pure (groups ++ ending)

/-- Splits a text at the first `::`. -/
def splitDouble? : List Char → Option (List Char × List Char)
  | ':' :: ':' :: rest => some ([], rest)
  | c :: rest => (splitDouble? rest).map fun (a, b) => (c :: a, b)
  | [] => none

/-- **The eight groups of an IPv6 address.** -/
def ipv6? (cs : List Char) : Option (List Nat) :=
  match splitDouble? cs with
  | none =>
    match ipv6Groups? cs with
    | some groups => if groups.length = 8 then some groups else none
    | none => none
  | some (front, back) =>
    if front.contains '.' then none
    else
      match ipv6Groups? front, ipv6Groups? back with
      | some a, some b =>
        if a.length + b.length ≤ 7 then some (a ++ List.replicate (8 - a.length - b.length) 0 ++ b)
        else none
      | _, _ => none

/-- The length of the run of zeros at the start. -/
def zerosAtStart (groups : List Nat) : Nat := (groups.takeWhile (· = 0)).length

/-- Where the longest run of at least two zero groups starts, the first one of equals. -/
def longestZeros? (groups : List Nat) : Option (Nat × Nat) :=
  (List.range groups.length).foldl
    (fun best i =>
      let n := zerosAtStart (groups.drop i)
      if 2 ≤ n ∧ (best.all fun b => b.2 < n) then some (i, n) else best)
    none

def hexText (n : Nat) : String := String.ofList (Nat.toDigits 16 n)

def renderIpv6 (groups : List Nat) : String :=
  match longestZeros? groups with
  | none => String.intercalate ":" (groups.map hexText)
  | some (i, n) =>
    String.intercalate ":" ((groups.take i).map hexText) ++ "::" ++
      String.intercalate ":" ((groups.drop (i + n)).map hexText)

/-! ### Names -/

/-- A name with its characters mapped, in normal form.  For a name in ASCII that is its small letters. -/
def mapName? (cs : List Char) : Option (List Char) :=
  if Label.isAscii cs then some (cs.map Char.toLower)
  else (HostMapping.mapName? cs).map Unicode.normalize

/-- The ASCII form of a name. -/
def asciiName? (cs : List Char) : Option (List Char) := do
  let name ← mapName? cs
  let parts ← (Text.piecesBy (· = '.') name).mapM Label.toAscii?
  pure (List.intercalate ['.'] parts)

/-- The host that a name stands for. -/
def ofName? (text : List Char) : Option String :=
  match asciiName? (Percent.decode (String.ofList text)) with
  | none => none
  | some name =>
    if name = [] ∨ name.any isForbiddenInName then none
    else if endsInNumber name then (ipv4? name).map renderIpv4
    else some (String.ofList name)

/-- **Reading a host.**  `special` says that the scheme is a web scheme. -/
def parse? (special : Bool) (text : List Char) : Option String :=
  match text with
  | '[' :: cs =>
    match cs.reverse with
    | ']' :: inner => (ipv6? inner.reverse).map fun groups => "[" ++ renderIpv6 groups ++ "]"
    | _ => none
  | _ =>
    if special then ofName? text
    else if text.any isForbidden then none
    else some (String.ofList (Percent.encode Percent.isControl text))

end BearerGate.Host
