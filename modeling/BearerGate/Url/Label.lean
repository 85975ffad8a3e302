import BearerGate.Text.Blank
import BearerGate.Unicode.Direction
import BearerGate.Unicode.Joining
import BearerGate.Unicode.Normalization
import BearerGate.Url.HostMapping
import BearerGate.Url.Punycode

/-!
# Labels of host names

The parts of a host name between its dots.  A label with characters outside ASCII has to be one that can
be read without doubt: it does not start with a mark, letters are joined by an invisible joiner only where
scripts need that, and characters that run in both directions are not mixed freely.  A label that is
written in an ASCII form has to be a form of such a label, or of one in ASCII that is not empty.
-/

namespace BearerGate.Label

open Unicode

/-! ### Joiners -/

/-- The invisible character that keeps letters apart. -/
def nonJoiner : Char := '\u200c'

/-- The invisible character that joins letters. -/
def joiner : Char := '\u200d'

/-- What the first invisible joiner of a label says about the label, given the characters before it in
reverse; nothing if there is none.  After a virama it makes the label a valid one. -/
def joinerVerdict? (before : List Char) : List Char → Option Bool
  | [] => none
  | c :: after =>
    let afterVirama := before.head?.any isVirama
    if c = nonJoiner then some (afterVirama || (before.any joinsNext && after.any joinsPrevious))
    else if c = joiner then some afterVirama
    else joinerVerdict? (c :: before) after

/-! ### Directions -/

/-- Directions that can stand in a label of either direction. -/
def isPlain (d : Direction) : Bool :=
  [Direction.europeanNumber, .europeanSeparator, .commonSeparator, .europeanTerminator, .neutral,
    .boundaryNeutral, .nonspacing].contains d

/-- Directions that run from right to left. -/
def runsLeftwards (d : Direction) : Bool := [Direction.right, .arabicLetter, .arabicNumber].contains d

/-- Whether the directions of a label go together.  Marks at the end do not count; a label that starts
from left to right is free in its last place. -/
def areConsistent (directions : List Direction) : Bool :=
  match directions.reverse.dropWhile (· = .nonspacing), directions with
  | last :: front, first :: _ =>
    if !directions.any runsLeftwards then true
    else if first = .left then front.all fun d => d = .left || isPlain d
    else
      (last :: front).all (fun d => runsLeftwards d || isPlain d) &&
        (runsLeftwards last || last = .europeanNumber) &&
        !(directions.contains .europeanNumber && directions.contains .arabicNumber)
  | _, _ => false

/-! ### Valid labels -/

/-- **Whether a label can be read without doubt.** -/
def isValid (label : List Char) : Bool :=
  !label.head?.any isMark && (joinerVerdict? [] label).getD (areConsistent (label.map Direction.ofChar))

def isAscii (cs : List Char) : Bool := cs.all (·.toNat < 0x80)

/-- What the ASCII form of a label starts with. -/
def asciiStart : List Char := "xn--".toList

/-- Whether a text after `asciiStart` stands for a label that is written as it should be. -/
def isEncoded (text : List Char) : Bool :=
  match Punycode.decode? text with
  | none => false
  | some label => HostMapping.mapName? label = some label && normalize label = label && isValid label

/-- **The ASCII form of a label,** which is mapped and in normal form. -/
def toAscii? (label : List Char) : Option (List Char) :=
  match Text.dropStart? asciiStart label with
  | some text => if isAscii text && isEncoded text then some label else none
  | none =>
    if isAscii label then some label
    else if isValid label then (Punycode.encode? label).map (asciiStart ++ ·)
    else none

end BearerGate.Label
