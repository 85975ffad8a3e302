import BearerGate.Json.Basic

/-!
# Issues

An issue says what is wrong with one value and where the value stands.  A value is **checked**: it is
either fine or has one issue or more.  Checking several values keeps the issues of all of them, in
order (`Checked.seq`), so that one wrong value never hides another.
-/

namespace BearerGate

/-- One step on the way to a value. -/
inductive PathStep where
  | name (s : String)
  | index (n : Nat)
  deriving DecidableEq, Repr

namespace PathStep

def text : PathStep → String
  | name s => s
  | index n => toString n

def toJson : PathStep → Json
  | name s => .string s
  | index n => .nat n

end PathStep

/-- **What is wrong with a value.** -/
inductive IssueKind where
  /-- The value is of another kind, or there is none. -/
  | wrongKind (expected : String) (received : Option String)
  | textTooShort (minimum : Nat)
  | textTooLong (maximum : Nat)
  /-- The number is below 0, or also if it is 0. -/
  | numberTooSmall (zeroAllowed : Bool)
  | noEmail
  | noUrl
  | notListed (options : List String) (received : String)
  deriving DecidableEq, Repr

namespace IssueKind

def options (names : List String) : String :=
  String.intercalate " | " (names.map fun s => "'" ++ s ++ "'")

/-- The usual wording. -/
def message : IssueKind → String
  | wrongKind _ none => "Required"
  | wrongKind expected (some received) => "Expected " ++ expected ++ ", received " ++ received
  | textTooShort n => "String must contain at least " ++ toString n ++ " character(s)"
  | textTooLong n => "String must contain at most " ++ toString n ++ " character(s)"
  | numberTooSmall true => "Number must be greater than or equal to 0"
  | numberTooSmall false => "Number must be greater than 0"
  | noEmail => "Invalid email"
  | noUrl => "Invalid url"
  | notListed names received =>
    "Invalid enum value. Expected " ++ options names ++ ", received '" ++ received ++ "'"

/-- The word for the kind of a value that is not there. -/
def absentWord : String := "undefined"

/-- The members that describe the kind of issue to a client. -/
def members : IssueKind → List (String × Json)
  | wrongKind expected received =>
    [("code", .string "invalid_type"), ("expected", .string expected),
      ("received", .string (received.getD absentWord))]
  | textTooShort n =>
    [("code", .string "too_small"), ("minimum", .nat n), ("type", .string "string"),
      ("inclusive", .bool true), ("exact", .bool false)]
  | textTooLong n =>
    [("code", .string "too_big"), ("maximum", .nat n), ("type", .string "string"),
      ("inclusive", .bool true), ("exact", .bool false)]
  | numberTooSmall zeroAllowed =>
    [("code", .string "too_small"), ("minimum", .nat 0), ("type", .string "number"),
      ("inclusive", .bool zeroAllowed), ("exact", .bool false)]
  | noEmail => [("validation", .string "email"), ("code", .string "invalid_string")]
  | noUrl => [("validation", .string "url"), ("code", .string "invalid_string")]
  | notListed names received =>
    [("received", .string received), ("code", .string "invalid_enum_value"),
      ("options", .strings names)]

end IssueKind

/-- **An issue,** with a wording of its own or the usual one. -/
structure Issue where
  path : List PathStep
  kind : IssueKind
  wording : Option String := none
  deriving DecidableEq, Repr

namespace Issue

def message (i : Issue) : String := i.wording.getD i.kind.message

/-- The issue as clients see it. -/
def toJson (i : Issue) : Json :=
  .object (i.kind.members ++
    [("message", .string i.message), ("path", .array (i.path.map PathStep.toJson))])

/-- The issue as one line. -/
def line (i : Issue) : String :=
  if i.path = [] then i.message
  else String.intercalate "." (i.path.map PathStep.text) ++ ": " ++ i.message

end Issue

/-- **A value that has been checked.** -/
inductive Checked (α : Type) where
  | fine (value : α)
  | faulty (first : Issue) (others : List Issue)

namespace Checked

variable {α β : Type}

/-- All issues; none if the value is fine. -/
def issues : Checked α → List Issue
  | fine _ => []
  | faulty i is => i :: is

def value? : Checked α → Option α
  | fine a => some a
  | faulty _ _ => none

def map (f : α → β) : Checked α → Checked β
  | fine a => fine (f a)
  | faulty i is => faulty i is

/-- Both must be fine; the issues of the first come first. -/
def seq (f : Checked (α → β)) (x : Unit → Checked α) : Checked β :=
  match f, x () with
  | fine f, fine a => fine (f a)
  | fine _, faulty i is => faulty i is
  | faulty i is, fine _ => faulty i is
  | faulty i is, faulty j js => faulty i (is ++ j :: js)

instance : Applicative Checked where
  pure := fine
  seq := seq

@[simp]
theorem issues_fine (a : α) : (fine a).issues = [] := rfl

@[simp]
theorem issues_seq (f : Checked (α → β)) (x : Checked α) :
    (f <*> x).issues = f.issues ++ x.issues := by
  show (seq f fun _ => x).issues = _
  cases f <;> cases x <;> simp [seq, issues]

@[simp]
theorem issues_map (f : α → β) (x : Checked α) : (f <$> x).issues = x.issues := by
  show (seq (fine f) fun _ => x).issues = _
  cases x <;> rfl

theorem issues_eq_nil_iff {x : Checked α} : x.issues = [] ↔ ∃ a, x = fine a := by
  cases x <;> simp [issues]

/-- A value with the given issues; fine if there are none. -/
def ofIssues (value : α) : List Issue → Checked α
  | [] => fine value
  | i :: is => faulty i is

/-- Checks the members of a list one by one. -/
def forAll (f : α → Checked β) : List α → Checked (List β)
  | [] => fine []
  | a :: as => List.cons <$> f a <*> forAll f as

end Checked

end BearerGate
