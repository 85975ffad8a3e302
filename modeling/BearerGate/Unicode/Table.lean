/-!
# Tables of characters

Properties of characters are given by tables of code points.  Characters that stand next to each other are
taken together as **runs**, which stand in a table in the order of the characters.
-/

namespace BearerGate.Unicode

/-- **A set of characters,** given by the first and the last code point of each run. -/
structure CharSet where
  runs : List (Nat × Nat)

namespace CharSet

def contains (s : CharSet) (c : Char) : Bool :=
  s.runs.any fun run => run.1 ≤ c.toNat && c.toNat ≤ run.2

end CharSet

/-- A run of a map: of the characters from `first` to `last`, each that is a multiple of `step` away from
the first is mapped to `target`, moved on by as much. -/
structure MapRun where
  first : Nat
  last : Nat
  step : Nat
  target : List Nat

namespace MapRun

/-- One character, mapped to a text. -/
def one (c : Nat) (target : List Nat) : MapRun := ⟨c, c, 1, target⟩

/-- A run whose first character is mapped to `target`, the next to the one after it, and so on. -/
def run (first last target : Nat) : MapRun := ⟨first, last, 1, [target]⟩

/-- A run that leaves out every other character. -/
def alternate (first last target : Nat) : MapRun := ⟨first, last, 2, [target]⟩

def get? (r : MapRun) (c : Char) : Option (List Char) :=
  let n := c.toNat
  if r.first ≤ n ∧ n ≤ r.last ∧ (n - r.first) % r.step = 0 then
    some (r.target.map fun t => Char.ofNat (t + (n - r.first)))
  else none

end MapRun

/-- **A map from characters to texts,** given by runs. -/
structure CharMap where
  runs : List MapRun

namespace CharMap

/-- What a character is mapped to. -/
def get? (m : CharMap) (c : Char) : Option (List Char) := m.runs.findSome? (·.get? c)

/-- The character that is mapped to a text, if it is the only one of its run. -/
def source? (m : CharMap) (text : List Char) : Option Char :=
  let target := text.map Char.toNat
  (m.runs.find? fun r => r.first = r.last && r.target = target).map (Char.ofNat ·.first)

end CharMap

end BearerGate.Unicode
