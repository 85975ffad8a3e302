/-!
# Binary64 numbers on one grid

Every finite binary64 number is a whole multiple of the smallest positive one, `2^(-1074)`.  So a
finite number is kept as that multiple, an `Int` of **steps**, and all arithmetic is done on whole
numbers and rounded once at the end.  Two facts follow at no cost: equality and order of finite
numbers are equality and order of integers, and every operation computes in the logic as well as
when the program runs.

* `Number.ofQuotient` rounds a quotient of naturals, counted in steps, to 53 significant bits, a tie
  going to the even neighbour; past the largest finite number it answers infinity.
* `add`, `sub`, `mul`, `div` are the exact results rounded by `ofQuotient`.
* `lt` and `le` are false as soon as one side is `nan`; so is `numEq`.

There is one zero.  Nothing in this library can tell the two zeros of the format apart: both are
written `0`, and no division by zero is ever made.
-/

namespace BearerGate

/-- **A binary64 number.**  `finite steps` stands for `steps · 2^(-1074)`. -/
inductive Number where
  | nan
  | infinite (negative : Bool)
  | finite (steps : Int)
  deriving DecidableEq, Repr, Inhabited

namespace Number

/-- The number of steps in one unit. -/
def scale : Nat := Nat.pow 2 1074

/-- The first count of steps past the finite numbers: `2^1024` units. -/
def topSteps : Nat := Nat.pow 2 2098

/-! ### Rounding -/

/-- The whole number nearest to `num / den`, a tie going to the even one. -/
def nearestEven (num den : Nat) : Nat :=
  let q := num / den
  let r := num % den
  if 2 * r < den then q else if den < 2 * r then q + 1 else q + q % 2

/-- The count of steps with at most 53 significant bits nearest to `num / den`. -/
def roundSteps (num den : Nat) : Nat :=
  let unit := Nat.pow 2 ((num / den).log2 - 52)
  nearestEven num (den * unit) * unit

/-- **Rounding.**  The number nearest to `num / den` steps, negated on request. -/
def ofQuotient (negative : Bool) (num den : Nat) : Number :=
  let steps := roundSteps num den
  if steps < topSteps then finite (if negative then -(steps : Int) else steps)
  else infinite negative

/-- The number nearest to `num / den` steps, with the sign of `num`. -/
def ofSignedQuotient (num : Int) (den : Nat) : Number :=
  ofQuotient (decide (num < 0)) num.natAbs den

/-- The number nearest to an integer. -/
def ofInt (n : Int) : Number := ofSignedQuotient (n * scale) 1

/-- The number nearest to a natural number. -/
def ofNat (n : Nat) : Number := ofInt n

instance (n : Nat) : OfNat Number n := ⟨ofNat n⟩

/-! ### Arithmetic -/

def neg : Number → Number
  | nan => nan
  | infinite s => infinite (!s)
  | finite a => finite (-a)

def add : Number → Number → Number
  | finite a, finite b => ofSignedQuotient (a + b) 1
  | infinite s, infinite t => if s = t then infinite s else nan
  | infinite s, finite _ => infinite s
  | finite _, infinite t => infinite t
  | _, _ => nan

def sub (a b : Number) : Number := add a (neg b)

def mul : Number → Number → Number
  | finite a, finite b => ofSignedQuotient (a * b) scale
  | infinite s, infinite t => infinite (s != t)
  | infinite s, finite b => if b = 0 then nan else infinite (s != decide (b < 0))
  | finite a, infinite t => if a = 0 then nan else infinite (t != decide (a < 0))
  | _, _ => nan

/-- Division by a positive natural number. -/
def divNat (a : Number) (d : Nat) : Number :=
  match a with
  | finite a => ofSignedQuotient a d
  | other => other

instance : Neg Number := ⟨neg⟩
instance : Add Number := ⟨add⟩
instance : Sub Number := ⟨sub⟩
instance : Mul Number := ⟨mul⟩

/-! ### Order -/

/-- Strictly less; never so with `nan` on either side. -/
def lt : Number → Number → Bool
  | finite a, finite b => a < b
  | infinite s, finite _ => s
  | finite _, infinite t => !t
  | infinite s, infinite t => s && !t
  | _, _ => false

/-- Less or equal; never so with `nan` on either side. -/
def le : Number → Number → Bool
  | finite a, finite b => a ≤ b
  | infinite s, finite _ => s
  | finite _, infinite t => !t
  | infinite s, infinite t => s || !t
  | _, _ => false

/-- Equal as numbers; `nan` differs from itself. -/
def numEq : Number → Number → Bool
  | nan, _ => false
  | a, b => a = b

instance : LT Number := ⟨fun a b => lt a b = true⟩
instance : LE Number := ⟨fun a b => le a b = true⟩
instance (a b : Number) : Decidable (a < b) := inferInstanceAs (Decidable (lt a b = true))
instance (a b : Number) : Decidable (a ≤ b) := inferInstanceAs (Decidable (le a b = true))

/-! ### Whole numbers -/

def isFinite : Number → Bool
  | finite _ => true
  | _ => false

/-- The integer that a finite number is, if it is one. -/
def toInt? : Number → Option Int
  | finite a => if a % scale = 0 then some (a / scale) else none
  | _ => none

/-- The natural number that a finite number is, if it is one. -/
def toNat? (a : Number) : Option Nat :=
  a.toInt?.bind fun n => if 0 ≤ n then some n.toNat else none

def isInteger (a : Number) : Bool := a.toInt?.isSome

/-- The integer part of a finite number, toward zero. -/
def truncate? : Number → Option Int
  | finite a => some (a.tdiv scale)
  | _ => none

/-- The least whole number that is not below a finite number. -/
def ceiling? : Number → Option Int
  | finite a => some (-(-a / scale))
  | _ => none

/-- The whole number nearest to a number, a tie going up. -/
def roundHalfUp : Number → Number
  | finite a => ofInt ((2 * a + scale) / (2 * scale))
  | other => other

/-- Two decimal places: hundredths are counted in the format itself, so `1.005` has `100` of them. -/
def roundToHundredths (a : Number) : Number := (a * 100).roundHalfUp.divNat 100

end Number

end BearerGate
