import BearerGate.Json.Basic

/-!
# Log entries

An entry has a level, a message and fields.  Fields are JSON values under names; a field that has no
value for an entry is left out of it.
-/

namespace BearerGate

/-- The level of an entry. -/
inductive LogLevel where
  | debug
  | info
  | warn
  | error
  deriving DecidableEq, Repr

def LogLevel.name : LogLevel → String
  | debug => "debug"
  | info => "info"
  | warn => "warn"
  | error => "error"

/-- **A log entry.** -/
structure LogEntry where
  level : LogLevel
  message : String
  fields : List (String × Json) := []

namespace LogEntry

/-- An entry with the fields that have a value. -/
def make (level : LogLevel) (message : String) (fields : List (String × Option Json)) : LogEntry :=
  { level, message, fields := fields.filterMap fun f => f.2.map (f.1, ·) }

/-- An entry whose fields are all texts. -/
def texts (level : LogLevel) (message : String) (fields : List (String × String)) : LogEntry :=
  { level, message, fields := fields.map fun f => (f.1, .string f.2) }

/-- The same entry with one more field. -/
def tagged (name value : String) (e : LogEntry) : LogEntry :=
  { e with fields := (name, .string value) :: e.fields }

/-- The entry as one JSON object. -/
def toJson (e : LogEntry) : Json :=
  .object (("level", .string e.level.name) :: ("message", .string e.message) :: e.fields)

end LogEntry

end BearerGate
