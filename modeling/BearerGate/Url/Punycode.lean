/-!
# Texts written in ASCII

A text with characters outside ASCII can be written in ASCII: first come its ASCII characters, with a
hyphen after them, and then, as numbers in base 36, where the others are inserted.  The digits of a number
come lowest first; a digit below the **threshold** of its place is the last one.

Numbers are written and read up to a limit.
-/

namespace BearerGate.Punycode

/-- A digit of base 36. -/
def digit (n : Nat) : Char := if n < 26 then Char.ofNat (n + 97) else Char.ofNat (n + 22)

/-- The value of a digit. -/
def digitValue? (c : Char) : Option Nat :=
  if 'a' ≤ c ∧ c ≤ 'z' then some (c.toNat - 97)
  else if c.isDigit then some (c.toNat - 22)
  else none

/-- The threshold of a place. -/
def threshold (place bias : Nat) : Nat :=
  if place ≤ bias then 1 else if bias + 26 ≤ place then 26 else place - bias

/-- The adapted bias after a delta. -/
def adapt (delta points : Nat) (first : Bool) : Nat :=
  let delta := if first then delta / 700 else delta / 2
  let delta := delta + delta / points
  let rec go (fuel k delta : Nat) : Nat :=
    match fuel with
    | 0 => k
    | fuel + 1 => if delta ≤ 455 then k + 36 * delta / (delta + 38) else go fuel (k + 36) (delta / 35)
  go delta 0 delta

/-- A delta as digits of which each but the last is at or above its threshold. -/
def deltaDigits (fuel q k bias : Nat) : List Char :=
  match fuel with
  | 0 => []
  | fuel + 1 =>
    let t := threshold k bias
    if q < t then [digit q]
    else digit (t + (q - t) % (36 - t)) :: deltaDigits fuel ((q - t) / (36 - t)) (k + 36) bias

/-- The greatest number that is written or read. -/
def limit : Nat := 2147483647

/-- What is kept while a label is encoded. -/
structure Progress where
  next : Nat
  delta : Nat
  bias : Nat
  handled : Nat
  written : List Char
  /-- No delta so far was beyond the limit. -/
  fits : Bool := true

namespace Progress

/-- What is written first: the characters in ASCII. -/
def start (basic : List Char) : Progress where
  next := 128
  delta := 0
  bias := 72
  handled := basic.length
  written := if basic = [] then [] else basic ++ ['-']

/-- Goes on to a code point. -/
def reach (p : Progress) (point : Nat) : Progress :=
  { p with delta := p.delta + (point - p.next) * (p.handled + 1), next := point }

/-- Writes the delta, for a character that is inserted here. -/
def write (basic : Nat) (p : Progress) : Progress :=
  { p with
    written := p.written ++ deltaDigits (p.delta + 2) p.delta 36 p.bias
    bias := adapt p.delta (p.handled + 1) (p.handled = basic)
    delta := 0
    handled := p.handled + 1
    fits := p.fits && p.delta ≤ limit }

/-- Passes a character of the text while those of one code point are inserted. -/
def pass (basic point : Nat) (p : Progress) (c : Nat) : Progress :=
  if c < point then { p with delta := p.delta + 1 }
  else if c = point then p.write basic
  else p

/-- Takes the characters of one code point into account. -/
def insert (basic : Nat) (cs : List Nat) (p : Progress) (point : Nat) : Progress :=
  let swept := cs.foldl (pass basic point) (p.reach point)
  { swept with delta := swept.delta + 1, next := point + 1 }

end Progress

/-- The code points outside ASCII of a text, in order. -/
def points (cs : List Nat) : List Nat := ((cs.filter (128 ≤ ·)).mergeSort (· ≤ ·)).eraseDups

/-- **A text written in ASCII,** if no delta is beyond the limit. -/
def encode? (text : List Char) : Option (List Char) :=
  let cs := text.map Char.toNat
  let basic := text.filter (·.toNat < 128)
  let done := (points cs).foldl (Progress.insert basic.length cs) (.start basic)
  if done.fits then some done.written else none

/-! ### Reading -/

/-- Reads a number and adds it to a sum; gives what is left. -/
def readDelta? (bias : Nat) : List Char → (place weight sum : Nat) → Option (Nat × List Char)
  | [], _, _, _ => none
  | c :: cs, place, weight, sum =>
    match digitValue? c with
    | none => none
    | some d =>
      let t := threshold place bias
      if (limit - sum) / weight < d then none
      else if d < t then some (sum + d * weight, cs)
      else if limit / (36 - t) < weight then none
      else readDelta? bias cs (place + 36) (weight * (36 - t)) (sum + d * weight)

theorem length_readDelta? {bias : Nat} {cs : List Char} {place weight sum : Nat} {r : Nat × List Char}
    (h : readDelta? bias cs place weight sum = some r) : r.2.length < cs.length := by
  induction cs generalizing place weight sum with
  | nil => simp [readDelta?] at h
  | cons c cs ih =>
    rw [readDelta?] at h
    split at h
    · simp at h
    · simp only at h
      split at h
      · simp at h
      · split at h
        · obtain rfl := Option.some.inj h
          simp
        · split at h
          · simp at h
          · have := ih h
            simp only [List.length_cons]
            omega

/-- Inserts a character after a number of others. -/
def insertAt (n : Nat) (c : Char) (cs : List Char) : List Char := cs.take n ++ c :: cs.drop n

/-- Inserts the characters that numbers tell of: `point` is the last one that was inserted, and `i` is
where the next one goes at the earliest. -/
def insertAll? (bias point i : Nat) (text : List Char) (cs : List Char) : Option (List Char) :=
  match cs with
  | [] => some text
  | c :: rest =>
    match _h : readDelta? bias (c :: rest) 36 1 i with
    | none => none
    | some (sum, left) =>
      let count := text.length + 1
      let next := point + sum / count
      if next.isValidChar then
        insertAll? (adapt (sum - i) count (i = 0)) next (sum % count + 1)
          (insertAt (sum % count) (Char.ofNat next) text) left
      else none
termination_by cs.length
decreasing_by exact length_readDelta? (by assumption)

/-- **The text that is written in ASCII.** -/
def decode? (cs : List Char) : Option (List Char) :=
  match cs.reverse.dropWhile (· ≠ '-') with
  | [] => insertAll? 72 128 0 [] cs
  | _ :: basic => insertAll? 72 128 0 basic.reverse (cs.reverse.takeWhile (· ≠ '-')).reverse

end BearerGate.Punycode
