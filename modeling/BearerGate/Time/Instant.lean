import BearerGate.Number.Basic

/-!
# Instants and their text

An instant is a whole number of milliseconds before or after the start of 1970, at most a hundred
million days away, or it is invalid.  Its text is the date and the time of day in UTC to the
millisecond.  A year outside 0 to 9999 has a sign and six digits.
-/

namespace BearerGate

/-- **An instant.** -/
inductive Instant where
  | valid (millis : Int)
  | invalid
  deriving DecidableEq, Repr, Inhabited

namespace Instant

/-- The farthest instant from the start of 1970, in milliseconds. -/
def limit : Nat := 8640000000000000

/-- The instant a number of milliseconds from the start of 1970; a fraction is cut off. -/
def ofMillis (n : Number) : Instant :=
  match n.truncate? with
  | some ms => if ms.natAbs ≤ limit then valid ms else invalid
  | none => invalid

/-- The instant a number of seconds from the start of 1970. -/
def ofSeconds (n : Number) : Instant := ofMillis (n * 1000)

/-! ### The calendar -/

/-- A day of the calendar. -/
structure Day where
  year : Int
  month : Nat
  day : Nat
  deriving DecidableEq, Repr

/-- The calendar day that many days after the first of January 1970.  Years are counted from March, so
that a leap day is the last of its year, in eras of 400 years. -/
def dayOf (days : Int) : Day :=
  let shifted := days + 719468
  let era := shifted.fdiv 146097
  let inEra := (shifted - era * 146097).toNat
  let yearOfEra := (inEra - inEra / 1460 + inEra / 36524 - inEra / 146096) / 365
  let dayOfYear := inEra - (365 * yearOfEra + yearOfEra / 4 - yearOfEra / 100)
  let fromMarch := (5 * dayOfYear + 2) / 153
  let day := dayOfYear - (153 * fromMarch + 2) / 5 + 1
  let month := if fromMarch < 10 then fromMarch + 3 else fromMarch - 9
  let year := era * 400 + yearOfEra + (if month ≤ 2 then 1 else 0)
  ⟨year, month, day⟩

/-- A number with zeros before it up to a width. -/
def padded (width n : Nat) : String :=
  let digits := (toString n).toList
  String.ofList (List.replicate (width - digits.length) '0' ++ digits)

def yearText (y : Int) : String :=
  if 0 ≤ y ∧ y ≤ 9999 then padded 4 y.toNat
  else (if y < 0 then "-" else "+") ++ padded 6 y.natAbs

/-- **The text of a valid instant.** -/
def text? : Instant → Option String
  | .valid ms =>
    let days := ms.fdiv 86400000
    let inDay := (ms - days * 86400000).toNat
    let d := dayOf days
    let date := yearText d.year ++ "-" ++ padded 2 d.month ++ "-" ++ padded 2 d.day
    let time := padded 2 (inDay / 3600000) ++ ":" ++ padded 2 (inDay / 60000 % 60) ++ ":" ++
      padded 2 (inDay / 1000 % 60) ++ "." ++ padded 3 (inDay % 1000)
    some (date ++ "T" ++ time ++ "Z")
  | .invalid => none

/-- The message about an instant that has no text. -/
def invalidMessage : String := "Invalid time value"

end Instant

end BearerGate
