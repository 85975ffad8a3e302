import BearerGate.Unicode.Decomposition
import BearerGate.Unicode.Mark

/-!
# Normal form

A text that can be written in several ways has one **normal form**.  All characters are decomposed, the
marks behind each character are put in the order of their classes, and then everything is put together
again as far as it goes.
-/

namespace BearerGate.Unicode

/-! ### Order of marks -/

/-- Puts a character at the end of a reversed text; a mark goes in front of marks of higher classes. -/
def insertMark (c : Char) : List Char → List Char
  | [] => [c]
  | d :: ds =>
    if combiningClass c ≠ 0 ∧ combiningClass c < combiningClass d then d :: insertMark c ds
    else c :: d :: ds

/-- A text with its marks in order. -/
def orderMarks (cs : List Char) : List Char := (cs.foldl (fun acc c => insertMark c acc) []).reverse

/-- **The decomposed form of a text.** -/
def decompose (cs : List Char) : List Char := orderMarks (cs.flatMap (decomposeChar decompositionDepth))

/-! ### Putting together -/

/-- A text that is being put together; both lists are reversed. -/
structure Composing where
  done : List Char := []
  /-- The last character that is not a mark; what comes next may be put together with it. -/
  base : Option Char := none
  /-- The marks after it that stay on their own. -/
  marks : List Char := []

namespace Composing

def toList (p : Composing) : List Char := (p.marks ++ p.base.toList ++ p.done).reverse

/-- Whether a character is cut off from the base by a mark of its class or a higher one. -/
def isCutOff (p : Composing) (c : Char) : Bool :=
  match p.marks with
  | [] => false
  | last :: _ => combiningClass c ≤ combiningClass last

/-- Takes the next character on its own. -/
def push (p : Composing) (c : Char) : Composing :=
  if combiningClass c = 0 then { done := p.marks ++ p.base.toList ++ p.done, base := some c }
  else { p with marks := c :: p.marks }

/-- Takes the next character, put together with the base if it can be. -/
def add (p : Composing) (c : Char) : Composing :=
  match p.base with
  | none => p.push c
  | some base =>
    match (if p.isCutOff c then none else compose? base c) with
    | some whole => { p with base := some whole }
    | none => p.push c

end Composing

/-- **The normal form of a text.** -/
def normalize (cs : List Char) : List Char := ((decompose cs).foldl Composing.add {}).toList

end BearerGate.Unicode
