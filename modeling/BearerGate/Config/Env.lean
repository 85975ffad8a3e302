import BearerGate.Table
import BearerGate.Text.Blank

/-!
# Variables of the environment

Settings come as variables with a text each.  A list is written with commas; a table as a list of
entries `name=value`.
-/

namespace BearerGate

/-- **The variables of an environment.** -/
abbrev Env := Table String

/-- **The entries of a list:** trimmed, without empty ones, each once. -/
def envList (raw : Option String) : List String :=
  Text.distinct (((Text.pieces (· = ',') (raw.getD "")).map Text.trim).filter (· ≠ ""))

/-- The name and the value of an entry of a table; none without a name before an equals sign. -/
def envPair? (entry : String) : Option (String × String) :=
  match Text.splitFirst? '=' entry with
  | some (name, value) => if name = "" then none else some (Text.trim name, Text.trim value)
  | none => none

/-- A name that no table keeps. -/
def unkeptName : String := "__proto__"

/-- **The table of a list of entries.**  Entries are written one after the other, so the last value of
a name counts. -/
def envMap (raw : Option String) : Table String :=
  Table.arrange (Table.putAll [] (((envList raw).filterMap envPair?).filter (·.1 ≠ unkeptName)))

end BearerGate
