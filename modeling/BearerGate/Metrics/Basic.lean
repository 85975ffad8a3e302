import BearerGate.Number.Decimal
import BearerGate.Table
import BearerGate.Text.Blank
import BearerGate.Text.Units

/-!
# Metrics

Counters of requests, gate decisions, key set fetches and calls on other services, and a histogram of
the durations of requests, with the text in which a collector reads them.

A **family** keeps one count for each label set.  A label set is kept as one text, its labels sorted and
written `name=value` with commas between them, and the collector's text is made from it by cutting it
at the commas and each piece at its equals signs.
-/

namespace BearerGate

/-- Names of labels with their values; a label without value is not part of the set. -/
abbrev Labels := List (String × Option String)

namespace Labels

/-- **The text under which a label set is kept.** -/
def key (labels : Labels) : String :=
  let entries := labels.filterMap fun l => l.2.map fun v => l.1 ++ "=" ++ v
  String.intercalate "," (entries.mergeSort Text.unitOrder)

/-- A label of a collector's text: the first two parts around equals signs. -/
def renderPair (piece : String) : String :=
  let parts := Text.pieces (· = '=') piece
  let name := parts.headD ""
  let value := (parts[1]?).getD "undefined"
  name ++ "=\"" ++ String.ofList (value.toList.flatMap fun c => if c = '"' then ['\\', '"'] else [c]) ++
    "\""

/-- **The labels of a collector's text.** -/
def render (key : String) : String :=
  if key = "" then ""
  else String.intercalate "," ((Text.pieces (· = ',') key).map renderPair)

end Labels

/-- One count for each label set, in the order in which the sets were first seen. -/
structure Counter where
  counts : Table Nat := []
  deriving DecidableEq, Repr

namespace Counter

def get (c : Counter) (key : String) : Nat := (Table.get? c.counts key).getD 0

/-- Adds one to the count of a label set. -/
def increment (c : Counter) (labels : Labels) : Counter :=
  ⟨Table.alter c.counts labels.key fun count => count.getD 0 + 1⟩

/-- The lines of a family. -/
def lines (c : Counter) (name help : String) : List String :=
  ("# HELP " ++ name ++ " " ++ help) :: ("# TYPE " ++ name ++ " counter") ::
    c.counts.map fun e => name ++ "\x7b" ++ Labels.render e.1 ++ "\x7d " ++ toString e.2

end Counter

/-! ### Durations -/

/-- The upper bounds of the buckets, in milliseconds. -/
def durationBounds : List Nat := [5, 10, 25, 50, 100, 250, 500, 1000, 2500, 5000]

/-- The durations of one label set. -/
structure Durations where
  count : Nat := 0
  sum : Number := 0
  /-- How many durations fall into each bucket and into no earlier one. -/
  buckets : List Nat := durationBounds.map fun _ => 0
  deriving DecidableEq, Repr

/-- Adds one to the first bucket whose bound is not below a duration. -/
def addToBucket (duration : Number) : List Nat → List Nat → List Nat
  | bound :: bounds, n :: ns =>
    if duration ≤ .ofNat bound then (n + 1) :: ns else n :: addToBucket duration bounds ns
  | _, ns => ns

def Durations.add (d : Durations) (duration : Number) : Durations where
  count := d.count + 1
  sum := d.sum + duration
  buckets := addToBucket duration durationBounds d.buckets

/-- The sums of the initial parts of a list. -/
def runningSums (start : Nat) : List Nat → List Nat
  | [] => []
  | n :: ns => (start + n) :: runningSums (start + n) ns

/-- The lines of one label set: a line for each bound with all durations up to it, one for all
durations, their count and their sum. -/
def Durations.lines (d : Durations) (labels : String) : List String :=
  let name := "http_request_duration_ms"
  (List.zipWith
      (fun bound n =>
        name ++ "_bucket\x7b" ++ labels ++ ",le=\"" ++ toString bound ++ "\"\x7d " ++ toString n)
      durationBounds (runningSums 0 d.buckets)) ++
    [name ++ "_bucket\x7b" ++ labels ++ ",le=\"+Inf\"\x7d " ++ toString d.count,
      name ++ "_count\x7b" ++ labels ++ "\x7d " ++ toString d.count,
      name ++ "_sum\x7b" ++ labels ++ "\x7d " ++ d.sum.render]

/-! ### All families -/

/-- **All metrics of a process.** -/
structure Metrics where
  requests : Counter := {}
  gateDecisions : Counter := {}
  keySetFetches : Counter := {}
  propagatedCalls : Counter := {}
  durations : Table Durations := []
  deriving DecidableEq, Repr

/-- **What is recorded.** -/
inductive MetricEvent where
  | request (method route : String) (status : Number) (duration : Number)
  | gateDecision (outcome : String) (reason : Option String)
  | keySetFetch (result : String)
  | propagatedCall (service result : String) (authenticated : Bool)
  deriving DecidableEq, Repr

namespace Metrics

/-- Adds a duration to those of a label set. -/
def addDuration (durations : Table Durations) (key : String) (duration : Number) : Table Durations :=
  Table.alter durations key fun d => (d.getD {}).add duration

/-- Counts a request and its duration; any label can be missing. -/
def countRequest (m : Metrics) (method route status : Option String) (duration : Number) : Metrics :=
  let place : Labels := [("method", method), ("route", route)]
  { m with
    requests := m.requests.increment (place ++ [("status", status)])
    durations := addDuration m.durations place.key duration }

/-- Counts a decision of the gate; any label can be missing. -/
def countDecision (m : Metrics) (outcome reason : Option String) : Metrics :=
  { m with gateDecisions := m.gateDecisions.increment [("outcome", outcome), ("reason", reason)] }

/-- Counts the fetch of a key set; its label can be missing. -/
def countFetch (m : Metrics) (result : Option String) : Metrics :=
  { m with keySetFetches := m.keySetFetches.increment [("result", result)] }

/-- Counts a call on another service; its first two labels can be missing. -/
def countCall (m : Metrics) (service result : Option String) (authenticated : Bool) : Metrics :=
  { m with
    propagatedCalls := m.propagatedCalls.increment
      [("service", service), ("result", result),
        ("authenticated", some (if authenticated then "true" else "false"))] }

/-- **Takes an event into account.** -/
def record (m : Metrics) : MetricEvent → Metrics
  | .request method route status duration =>
    m.countRequest (some method) (some route) (some status.render) duration
  | .gateDecision outcome reason => m.countDecision (some outcome) reason
  | .keySetFetch result => m.countFetch (some result)
  | .propagatedCall service result authenticated =>
    m.countCall (some service) (some result) authenticated

/-- The lines of a collector's text. -/
def lines (m : Metrics) : List String :=
  m.requests.lines "http_requests_total" "Total number of HTTP requests" ++
    m.gateDecisions.lines "auth_gate_decisions_total" "Validation gate decisions by outcome and reason" ++
    m.keySetFetches.lines "auth_key_set_fetches_total" "Issuer key set fetches by result" ++
    m.propagatedCalls.lines "propagated_calls_total"
      "Outbound service calls carrying the inbound bearer token" ++
    ["# HELP http_request_duration_ms HTTP request duration in ms",
      "# TYPE http_request_duration_ms histogram"] ++
    m.durations.flatMap fun e => e.2.lines (Labels.render e.1)

/-- **The text that a collector reads.** -/
def render (m : Metrics) : String := String.intercalate "\n" m.lines ++ "\n"

end Metrics

end BearerGate
