import BearerGate.Json.Basic

/-!
# How a service logs

The log of a service in production goes out as it is; in development it goes through a printer for
people; under test there is none.  The headers that carry tokens never appear in a log.
-/

namespace BearerGate

/-- **The options of a service's log.** -/
structure LogOptions where
  level : String
  service : String
  /-- Whether entries are printed for people. -/
  pretty : Bool
  deriving DecidableEq, Repr

/-- The fields that are blotted out of every entry. -/
def redactedFields : List String := ["req.headers.authorization", "headers.authorization"]

/-- The options for an environment, a level and a service. -/
def LogOptions.make (environment level service : String) : LogOptions where
  level := if environment = "test" then "silent" else level
  service
  pretty := environment ≠ "production" && environment ≠ "test"

/-- The printer for people: in colour, with the time of day, on one line. -/
def prettyTransport : Json :=
  .object [("target", .string "pino-pretty"),
    ("options", .object [("colorize", .bool true), ("translateTime", .string "HH:MM:ss"),
      ("singleLine", .bool true)])]

def LogOptions.toJson (o : LogOptions) : Json :=
  .object [("level", .string o.level), ("base", .object [("service", .string o.service)]),
    ("redact", .strings redactedFields), ("transport", if o.pretty then prettyTransport else .null)]

end BearerGate
