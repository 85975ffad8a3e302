/-!
# Lengths and order in 16-bit units

A character up to U+FFFF counts as one unit, any other as two.  Lengths that are reported or bounded,
and the order in which texts are sorted, are those of the units, not of the characters: the two orders
differ, since a surrogate pair starts with a unit below U+E000.
-/

namespace BearerGate.Text

/-- The 16-bit units of a character. -/
def charUnits (c : Char) : List Nat :=
  let n := c.toNat
  if n < 0x10000 then [n]
  else [0xd800 + (n - 0x10000) / 0x400, 0xdc00 + (n - 0x10000) % 0x400]

/-- The 16-bit units of a text. -/
def units (s : String) : List Nat := s.toList.flatMap charUnits

/-- **The length of a text in 16-bit units.** -/
def unitLength (s : String) : Nat := (units s).length

/-- Whether one list of units comes no later than another in dictionary order. -/
def unitsLe : List Nat → List Nat → Bool
  | [], _ => true
  | _ :: _, [] => false
  | a :: as, b :: bs => a < b || (a = b && unitsLe as bs)

/-- Dictionary order of texts by their units. -/
def unitOrder (s t : String) : Bool := unitsLe (units s) (units t)

end BearerGate.Text
