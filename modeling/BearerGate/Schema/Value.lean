import BearerGate.Number.Reading
import BearerGate.Schema.Issue
import BearerGate.Text.Blank
import BearerGate.Text.Units

/-!
# Checks on single values

The checks from which the checks of settings and of request bodies are put together.  A value of the
wrong kind has that one issue; a value of the right kind has an issue for each bound that it breaks, in
the order in which the bounds are listed.
-/

namespace BearerGate.Checked

variable {α : Type}

/-- One issue. -/
def fault (path : List PathStep) (kind : IssueKind) : Checked α := .faulty ⟨path, kind, none⟩ []

/-- A value that is not of the expected kind, or is missing. -/
def wrongKind (path : List PathStep) (expected : String) (received : Option Json) : Checked α :=
  fault path (.wrongKind expected (received.map Json.kindWord))

/-! ### Numbers -/

/-- A bound on a number. -/
inductive NumberBound where
  | whole
  | positive
  | nonnegative

/-- The issue of a number that breaks a bound. -/
def NumberBound.issue? (n : Number) : NumberBound → Option IssueKind
  | whole => if n.isInteger then none else some (.wrongKind "integer" (some "float"))
  | positive => if 0 < n then none else some (.numberTooSmall false)
  | nonnegative => if 0 ≤ n then none else some (.numberTooSmall true)

/-- **A number within bounds.** -/
def bounded (path : List PathStep) (bounds : List NumberBound) (n : Number) : Checked Number :=
  if n = .nan then fault path (.wrongKind "number" (some "nan"))
  else ofIssues n ((bounds.filterMap (NumberBound.issue? n)).map fun kind => ⟨path, kind, none⟩)

/-- A number that is written as a text. -/
def writtenNumber (path : List PathStep) (bounds : List NumberBound) (text : String) : Checked Number :=
  bounded path bounds (.ofText text)

/-- A number in a JSON value. -/
def number (path : List PathStep) (bounds : List NumberBound) : Option Json → Checked Number
  | some (.number n) => bounded path bounds n
  | other => wrongKind path "number" other

/-! ### Texts -/

/-- A text of at least and at most so many units. -/
def sized (path : List PathStep) (minimum : Nat) (maximum : Option Nat) (s : String) : Checked String :=
  let length := Text.unitLength s
  if length < minimum then fault path (.textTooShort minimum)
  else
    match maximum with
    | some m => if m < length then fault path (.textTooLong m) else .fine s
    | none => .fine s

/-- A text in a JSON value, with a further check. -/
def text (path : List PathStep) (check : String → Checked α) : Option Json → Checked α
  | some (.string s) => check s
  | other => wrongKind path "string" other

/-- One of a list of names. -/
def listed (path : List PathStep) (names : List String) (ofName? : String → Option α) (s : String) :
    Checked α :=
  match ofName? s with
  | some a => .fine a
  | none => fault path (.notListed names s)

/-! ### Mail addresses -/

/-- Letters, digits and signs that the part before the at sign may have; a point is one of them. -/
def isLocalChar (c : Char) : Bool := c.isAlphanum || "_'+-.".toList.contains c

/-- Whether two points follow each other. -/
def hasDoublePoint (cs : List Char) : Bool := Text.occursIn ['.', '.'] cs

def isLocalPart (cs : List Char) : Bool :=
  cs.all isLocalChar && cs.head? ≠ some '.' && !hasDoublePoint cs &&
    cs.getLast?.any fun c => c ≠ '.' && c ≠ '\''

def isDomainLabel (cs : List Char) : Bool :=
  cs.head?.any Char.isAlphanum && cs.all fun c => c.isAlphanum || c = '-'

/-- **Whether a text is a mail address:** a part before the at sign, and a domain of two labels or more
whose last one consists of letters. -/
def isEmail (s : String) : Bool :=
  match Text.piecesBy (· = '@') s.toList with
  | [localPart, domain] =>
    isLocalPart localPart &&
      match (Text.piecesBy (· = '.') domain).reverse with
      | last :: front@(_ :: _) => 2 ≤ last.length && last.all Char.isAlpha && front.all isDomainLabel
      | _ => false
  | _ => false

end BearerGate.Checked
