import BearerGate.Number.Basic

/-!
# Decimal text of numbers

The text of a number is the shortest decimal that reads back as that number.

* `Number.ofDecimal` reads `digits · 10^exponent`, correctly rounded.
* `shortest` looks for a decimal with one digit, then two, and so on up to seventeen.  On each of these
  decimal grids only the two neighbours of the number can be the nearest decimal, and a neighbour
  counts only if it reads back; so what `shortest` answers reads back by construction.
* `Number.render` lays the digits out: positional from `10^(-7)` to below `10^21`, with an exponent
  outside.
-/

namespace BearerGate

/-- A positive decimal `digits · 10^exponent`. -/
structure Decimal where
  digits : Nat
  exponent : Int
  deriving DecidableEq, Repr

namespace Number

/-- The value of `digits · 10^exponent`, rounded once. -/
def ofExactDecimal (negative : Bool) (digits : Nat) (exponent : Int) : Number :=
  if 0 ≤ exponent then ofQuotient negative (digits * Nat.pow 10 exponent.toNat * scale) 1
  else ofQuotient negative (digits * scale) (Nat.pow 10 (-exponent).toNat)

/-- **Reading a decimal.**  A decimal with its first digit far outside the range of the format is
infinity or zero, and is not computed. -/
def ofDecimal (negative : Bool) (digits : Nat) (exponent : Int) : Number :=
  if digits = 0 then finite 0
  else
    let point := (toString digits).length + exponent
    if 400 < point then infinite negative
    else if point < -400 then finite 0
    else ofExactDecimal negative digits exponent

end Number

namespace Decimal

/-- How many digits the whole part of `steps` has; for a number below one, zero or minus the count of
zeros that follow the point. -/
def pointPosition (steps : Nat) : Int :=
  (toString (steps * Nat.pow 10 400 / Number.scale)).length - 400

/-- The two multiples of `10^exponent` around `steps`, the nearer one first. -/
def neighbours (steps : Nat) (exponent : Int) : List Nat :=
  let num := if 0 ≤ exponent then steps else steps * Nat.pow 10 (-exponent).toNat
  let den := if 0 ≤ exponent then Number.scale * Nat.pow 10 exponent.toNat else Number.scale
  let near := Number.nearestEven num den
  let low := num / den
  if near = low then [low, low + 1] else [low + 1, low]

/-- The nearest decimal with the given number of digits that reads back as `steps`. -/
def ofDigits? (steps count : Nat) : Option Decimal :=
  let exponent := pointPosition steps - count
  ((neighbours steps exponent).find? fun digits =>
    Number.ofDecimal false digits exponent = .finite steps).map (⟨·, exponent⟩)

/-- Every finite number is a decimal: `2^(-1074)` is `5^1074 · 10^(-1074)`. -/
def exact (steps : Nat) : Decimal := ⟨steps * Nat.pow 5 1074, -1074⟩

/-- **The shortest decimal that reads back as `steps`.** -/
def shortest (steps : Nat) : Decimal :=
  ((List.range 17).findSome? fun n => ofDigits? steps (n + 1)).getD (exact steps)

/-- The digits as characters, without the zeros at their end. -/
def significant (d : Decimal) : List Char :=
  ((toString d.digits).toList.reverse.dropWhile (· = '0')).reverse

/-- Lays out significant digits whose point stands `point` places after the first digit's left edge. -/
def layOut (digits : List Char) (point : Int) : List Char :=
  let count : Int := digits.length
  if count ≤ point ∧ point ≤ 21 then
    digits ++ List.replicate (point - count).toNat '0'
  else if 0 < point ∧ point ≤ 21 then
    digits.take point.toNat ++ '.' :: digits.drop point.toNat
  else if -6 < point ∧ point ≤ 0 then
    '0' :: '.' :: (List.replicate (-point).toNat '0' ++ digits)
  else
    let exponent := point - 1
    let sign := if exponent < 0 then '-' else '+'
    let tail := 'e' :: sign :: (toString exponent.natAbs).toList
    match digits with
    | [] => tail
    | [d] => d :: tail
    | d :: ds => d :: '.' :: (ds ++ tail)

/-- The text of a positive count of steps. -/
def renderSteps (steps : Nat) : List Char :=
  let d := shortest steps
  layOut d.significant ((toString d.digits).length + d.exponent)

end Decimal

/-- **The text of a number.** -/
def Number.render : Number → String
  | .nan => "NaN"
  | .infinite negative => if negative then "-Infinity" else "Infinity"
  | .finite steps =>
    if steps = 0 then "0"
    else
      let digits := Decimal.renderSteps steps.natAbs
      String.ofList (if steps < 0 then '-' :: digits else digits)

end BearerGate
