import BearerGate.Number.Reading
import BearerGate.Text.Blank
import BearerGate.Text.Units
import BearerGate.Text.Utf8

/-!
# The path of a request target

For routing, the path of a target ends at the first `?`, `;` or `#`.  Its first character is a slash, or
stands for one; the rest is cut into segments at the slashes, and the escapes of each segment are decoded.
An escape that stands for no character makes the whole target unreadable.

A few characters mean something in an address (`# $ % & + , / : ; = ? @`).  Their escapes are decoded as
well, but they are **kept apart**: in a fixed part of a route an escaped one matches nothing.

A path without slash can start with an escape.  Whether that one is looked at depends on the escapes after
it: where all of those are kept apart, a percent sign in the first place stands for the slash like any other
character.
-/

namespace BearerGate

/-- A character of a decoded segment; `apart` says that it is the escape of a character with a meaning. -/
structure SegmentChar where
  char : Char
  apart : Bool
  deriving DecidableEq, Repr

namespace Target

def endsPath (c : Char) : Bool := c = '?' || c = ';' || c = '#'

/-- Characters with a meaning in an address. -/
def isMeaningful (c : Char) : Bool := "#$%&+,/:;=?@".toList.contains c

/-- Reads the escape of a byte at the start. -/
def takeByte? : List Char → Option (Nat × List Char)
  | '%' :: a :: b :: rest =>
    match Number.digit? 16 a, Number.digit? 16 b with
    | some x, some y => some (x * 16 + y, rest)
    | _, _ => none
  | _ => none

/-- Reads the later bytes of a character. -/
def takeRest? : (count : Nat) → (p : Text.Utf8.Pending) → List Char → Option (Char × List Char)
  | 0, _, _ => none
  | count + 1, p, cs =>
    match takeByte? cs with
    | none => none
    | some (b, rest) =>
      if p.low ≤ b ∧ b ≤ p.high then
        let bits := p.bits * 64 + (b - 0x80)
        if p.missing ≤ 1 then some (Char.ofNat bits, rest)
        else takeRest? count { bits, missing := p.missing - 1 } rest
      else none

/-- Reads an escaped character at the start. -/
def takeEscaped? (cs : List Char) : Option (Char × List Char) :=
  match takeByte? cs with
  | none => none
  | some (b, rest) =>
    if b < 0x80 then some (Char.ofNat b, rest)
    else
      match Text.Utf8.lead b with
      | .pending p => takeRest? 3 p rest
      | .char _ => none

/-- Decodes the characters of a segment; at most `depth` of them. -/
def decodeChars? : (depth : Nat) → List Char → Option (List SegmentChar)
  | _, [] => some []
  | 0, _ :: _ => none
  | depth + 1, c :: cs =>
    if c = '%' then
      match takeEscaped? (c :: cs) with
      | none => none
      | some (d, rest) => (decodeChars? depth rest).map (⟨d, isMeaningful d⟩ :: ·)
    else (decodeChars? depth cs).map (⟨c, false⟩ :: ·)

/-- A target that starts with a web scheme and a host, from the slash after the host on. -/
def withoutHost? (cs : List Char) : Option (List Char) :=
  match ((Text.dropStart? "http://".toList cs).or (Text.dropStart? "https://".toList cs)) with
  | none => none
  | some rest =>
    let front := rest.takeWhile (· ≠ '/')
    if rest.contains '/' ∧ !front.any Text.isLineEnd then some (rest.dropWhile (· ≠ '/')) else none

/-- A target from its path on. -/
def fromPath (target : String) : List Char := (withoutHost? target.toList).getD target.toList

/-- The path of a target, its first character apart; none if the target is empty. -/
def pathOf? (target : String) : Option (Char × List Char) :=
  match fromPath target with
  | [] => none
  | c :: cs => some (c, cs.takeWhile fun c => !endsPath c)

/-- Whether a text has an escape other than those that are kept apart.  That of the percent sign counts as
another one. -/
def hasPlainEscape : List Char → Bool
  | [] => false
  | c :: cs =>
    (c = '%' && (takeByte? (c :: cs)).all fun e => e.1 = 0x25 || !isMeaningful (Char.ofNat e.1)) ||
      hasPlainEscape cs

/-- What follows the first character of a path; nothing if that is an escape which is looked at and cannot
be read.  A character with a meaning loses only its percent sign; one that takes two 16-bit units would lose
the first of them, and what is left matches as little as the whole. -/
def afterFirst? (c : Char) (cs : List Char) : Option (List Char) :=
  if c = '%' ∧ hasPlainEscape cs then
    (takeEscaped? (c :: cs)).map fun e =>
      if isMeaningful e.1 ∧ e.1 ≠ '%' then cs else if 0x10000 ≤ e.1.toNat then c :: cs else e.2
  else some cs

/-- **The decoded segments of a target's path.**  The outer option is empty if an escape cannot be read,
the inner one if there is no path. -/
def segments? (target : String) : Option (Option (List (List SegmentChar))) :=
  match pathOf? target with
  | none => some none
  | some (c, cs) =>
    (afterFirst? c cs).bind fun cs =>
      ((Text.piecesBy (· = '/') cs).mapM fun s => decodeChars? s.length s).map some

/-- Whether a decoded segment is a fixed part of a route. -/
def isLiteral (literal : String) (segment : List SegmentChar) : Bool :=
  segment.all (fun c => !c.apart) && segment.map (·.char) = literal.toList

/-- The text of a decoded segment. -/
def segmentText (segment : List SegmentChar) : String := String.ofList (segment.map (·.char))

end Target

/-! ### Patterns -/

/-- A part of a route's path. -/
inductive PatternPart where
  | literal (s : String)
  /-- One segment, possibly empty. -/
  | parameter (name : String)
  /-- All segments from here on, at least one. -/
  | rest
  deriving DecidableEq, Repr

/-- The longest parameter that is matched, in 16-bit units. -/
def longestParameter : Nat := 100

/-- **Matching a path;** the answer holds the parameters. -/
def matchPattern : List PatternPart → List (List SegmentChar) → Option (List (String × String))
  | [], [] => some []
  | [.rest], _ :: _ => some []
  | .literal s :: parts, segment :: segments =>
    if Target.isLiteral s segment then matchPattern parts segments else none
  | .parameter name :: parts, segment :: segments =>
    let text := Target.segmentText segment
    if Text.unitLength text ≤ longestParameter then
      (matchPattern parts segments).map ((name, text) :: ·)
    else none
  | _, _ => none

/-- The text of a pattern. -/
def patternText (parts : List PatternPart) : String :=
  String.join (parts.map fun
    | .literal s => "/" ++ s
    | .parameter name => "/:" ++ name
    | .rest => "/*")

end BearerGate
