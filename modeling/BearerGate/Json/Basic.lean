import BearerGate.Number.Decimal
import BearerGate.Table
import BearerGate.Text.Units

/-!
# JSON values

`Json` is the value that a JSON text stands for.  An object is the table of its members in the order in
which they are visited: names that are indices come first, in ascending order, and the others follow in
the order in which they were first written.  A name that is written twice keeps its first place and takes
its last value.  `Json.ofMembers` brings written members into that form, and every object that the
library builds goes through it or through `Json.record`, whose names are literals.
-/

namespace BearerGate

/-- **A JSON value.** -/
inductive Json where
  | null
  | bool (b : Bool)
  | number (n : Number)
  | string (s : String)
  | array (elements : List Json)
  | object (members : List (String × Json))
  deriving Inhabited

/-- The members of a JSON object. -/
abbrev Members : Type := Table Json

namespace Json

/-! ### Members of an object -/

/-- **The object with the given members,** in the order in which they were written. -/
def ofMembers (written : List (String × Json)) : Json :=
  object (Table.arrange (Table.putAll [] written))

/-- **The member of a name;** only objects have members. -/
def member? : Json → String → Option Json
  | object members, name => Table.get? members name
  | _, _ => none

/-! ### Views -/

def string? : Json → Option String
  | string s => some s
  | _ => none

def number? : Json → Option Number
  | number n => some n
  | _ => none

def members? : Json → Option (List (String × Json))
  | object members => some members
  | _ => none

/-- The members of a value that is taken for an object: the elements of an array and the characters of a
text count under their places, and any other value has none. -/
def fields : Json → Members
  | object members => members
  | array elements => elements.zipIdx.map fun (j, n) => (toString n, j)
  | string s => s.toList.zipIdx.map fun (c, n) => (toString n, string (String.ofList [c]))
  | _ => []

/-- The string in a member, if the member is there and is a string. -/
def stringMember? (j : Json) (name : String) : Option String := (j.member? name).bind string?

/-- The word for the kind of a value that a report on a wrong kind uses. -/
def kindWord : Json → String
  | null => "null"
  | bool _ => "boolean"
  | number .nan => "nan"
  | number _ => "number"
  | string _ => "string"
  | array _ => "array"
  | object _ => "object"

mutual

/-- **The text that a value stands for** where a text is wanted: a string as it is, and the elements of an
array with commas between them, `null` among them as nothing. -/
def plainText : Json → String
  | null => "null"
  | bool b => if b then "true" else "false"
  | number n => n.render
  | string s => s
  | array elements => String.intercalate "," (elementTexts elements)
  | object _ => "[object Object]"

/-- The texts of the elements of an array. -/
def elementTexts : List Json → List String
  | [] => []
  | null :: js => "" :: elementTexts js
  | j :: js => plainText j :: elementTexts js

end

/-- Whether a value counts as true where a truth value is wanted. -/
def isTruthy : Json → Bool
  | null => false
  | bool b => b
  | number n => n ≠ .nan && n ≠ 0
  | string s => s ≠ ""
  | array _ | object _ => true

/-! ### Building -/

/-- A record whose optional members are left out when absent. -/
def record (members : List (String × Option Json)) : Json :=
  object (members.filterMap fun m => m.2.map (m.1, ·))

def nat (n : Nat) : Json := number (.ofNat n)

/-- A string, or `null`. -/
def stringOrNull : Option String → Json
  | some s => string s
  | none => null

def strings (xs : List String) : Json := array (xs.map string)

end Json

end BearerGate
