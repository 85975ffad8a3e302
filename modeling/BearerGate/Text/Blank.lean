/-!
# Blanks and pieces

Which characters are blank, trimming, and cutting a text at separators.

The blanks are the characters with the Unicode property `White_Space`, less the control character
U+0085 and with the byte order mark U+FEFF: 25 characters.  Trimming removes them from both ends.

`pieces` cuts a text at every separator and keeps empty pieces, so a text with `n` separators has
`n + 1` pieces.
-/

namespace BearerGate.Text

/-- The blanks outside the ASCII range that do not lie in a row. -/
def scatteredBlanks : List Char :=
  [' ', '\u00a0', '\u1680', '\u2028', '\u2029', '\u202f', '\u205f', '\u3000', '\ufeff']

/-- **Blank characters.** -/
def isBlank (c : Char) : Bool :=
  ('\t' ≤ c && c ≤ '\r') || ('\u2000' ≤ c && c ≤ '\u200a') || scatteredBlanks.contains c

/-- The line ends, which `.` of a pattern does not match. -/
def isLineEnd (c : Char) : Bool :=
  c = '\n' || c = '\r' || c = '\u2028' || c = '\u2029'

/-- Removes the characters of a class from both ends. -/
def trimChars (p : Char → Bool) (cs : List Char) : List Char :=
  ((cs.dropWhile p).reverse.dropWhile p).reverse

/-- Removes blanks from both ends. -/
def trim (s : String) : String :=
  String.ofList (trimChars isBlank s.toList)

/-- Cuts a list of characters at every character of a class. -/
def piecesBy (sep : Char → Bool) : List Char → List (List Char)
  | [] => [[]]
  | c :: cs =>
    if sep c then [] :: piecesBy sep cs
    else
      match piecesBy sep cs with
      | [] => [[c]]
      | p :: ps => (c :: p) :: ps

/-- **Cuts a text at every separator,** empty pieces included. -/
def pieces (sep : Char → Bool) (s : String) : List String :=
  (piecesBy sep s.toList).map String.ofList

/-- The part of a text before the first occurrence of a character; all of it if there is none. -/
def before (c : Char) (s : String) : String :=
  String.ofList (s.toList.takeWhile (· ≠ c))

/-- Splits at the first occurrence of a character. -/
def splitFirst? (c : Char) (s : String) : Option (String × String) :=
  match s.toList.dropWhile (· ≠ c) with
  | [] => none
  | _ :: rest => some (before c s, String.ofList rest)

/-- Whether a text starts with another; the rest if so. -/
def dropStart? : (start text : List Char) → Option (List Char)
  | [], cs => some cs
  | _ :: _, [] => none
  | a :: as, c :: cs => if a = c then dropStart? as cs else none

/-- Whether one list of characters occurs in another. -/
def occursIn (needle : List Char) : List Char → Bool
  | [] => needle.isEmpty
  | c :: cs => needle.isPrefixOf (c :: cs) || occursIn needle cs

/-- The members of a list in the order of their first occurrence, each once. -/
def distinct (xs : List String) : List String :=
  xs.foldl (fun seen x => if seen.contains x then seen else seen ++ [x]) []

/-- ASCII letters in lower case; every other character stays. -/
def lower (s : String) : String := String.ofList (s.toList.map Char.toLower)

end BearerGate.Text
