import BearerGate.Proofs.Metrics.Labels
import BearerGate.Proofs.Number.Text
import BearerGate.Proofs.Text.Distinct

/-!
# What the metrics hold after a run of records

Every record changes the tables of the metrics under one text each, the one that keeps its label set.  So a
table is the records of its family gathered by that text (`Table.foldl_alter`): its texts are those of the
records, each once, and under each text stands what the records with it add up to.

So much is said for each family of counters by `Metrics.counts_recorded` and for the histogram by
`Metrics.durations_recorded`.
-/

namespace BearerGate

/-! ### Gathering in a table -/

namespace Table

variable {α β : Type}

/-- **Records gathered by their texts:** each text once, with what the records with that text add up to. -/
def gathered (name : β → String) (start : α) (add : α → β → α) (xs : List β) : Table α :=
  (Text.distinct (xs.map name)).map fun text => (text, (xs.filter (name · = text)).foldl add start)

variable (name : β → String) (start : α) (add : α → β → α)

/-- One more record. -/
theorem alter_gathered (xs : List β) (x : β) :
    alter (gathered name start add xs) (name x) (fun found => add (found.getD start) x) =
      gathered name start add (xs ++ [x]) := by
  have others : ∀ text, text ≠ name x → (xs ++ [x]).filter (name · = text) = xs.filter (name · = text) := by
    intro text other
    simp [List.filter_append, Ne.symm other]
  have own : ((xs ++ [x]).filter (name · = name x)).foldl add start =
      add ((xs.filter (name · = name x)).foldl add start) x := by
    simp [List.filter_append]
  have there : (gathered name start add xs).any (·.1 = name x) = decide (name x ∈ xs.map name) := by
    rw [Bool.eq_iff_iff, decide_eq_true_iff, ← Text.mem_distinct]
    simp only [gathered, List.any_map, List.any_eq_true, Function.comp_apply, decide_eq_true_eq]
    exact ⟨fun ⟨text, text_there, same⟩ => same ▸ text_there, fun text_there => ⟨name x, text_there, rfl⟩⟩
  rw [alter, there]
  simp only [decide_eq_true_eq]
  unfold gathered
  rw [List.map_append, List.map_singleton, Text.distinct_concat]
  by_cases seen : name x ∈ xs.map name
  · rw [if_pos seen, if_pos seen, List.map_map]
    refine List.map_congr_left fun text _ => ?_
    by_cases same : text = name x
    · subst same
      simp
    · simp [same, others text same]
  · have none_before : xs.filter (name · = name x) = [] := by
      rw [List.filter_eq_nil_iff]
      intro y y_there same
      exact seen (List.mem_map.2 ⟨y, y_there, of_decide_eq_true same⟩)
    rw [if_neg seen, if_neg seen, List.map_append]
    refine congr (congrArg _ (List.map_congr_left fun text text_there => ?_)) ?_
    · rw [others text]
      rintro rfl
      exact seen (Text.mem_distinct.1 text_there)
    · rw [List.map_singleton, own, none_before]
      rfl

/-- **Recording gathers.** -/
theorem foldl_alter (xs : List β) :
    xs.foldl (fun t x => alter t (name x) fun found => add (found.getD start) x) [] =
      gathered name start add xs := by
  have run : ∀ (done todo : List β),
      todo.foldl (fun t x => alter t (name x) fun found => add (found.getD start) x)
        (gathered name start add done) = gathered name start add (done ++ todo) := by
    intro done todo
    induction todo generalizing done with
    | nil => rw [List.append_nil, List.foldl_nil]
    | cons x xs ih => rw [List.foldl_cons, alter_gathered, ih, List.append_assoc, List.singleton_append]
  exact run [] xs

end Table

/-! ### Families and their labels -/

/-- The four families of counters. -/
inductive Family
  | requests | decisions | fetches | calls
  deriving DecidableEq, Repr

namespace Family

/-- All of them, in the order in which they are written. -/
def all : List Family := [requests, decisions, fetches, calls]

def name : Family → String
  | requests => "http_requests_total"
  | decisions => "auth_gate_decisions_total"
  | fetches => "auth_key_set_fetches_total"
  | calls => "propagated_calls_total"

def help : Family → String
  | requests => "Total number of HTTP requests"
  | decisions => "Validation gate decisions by outcome and reason"
  | fetches => "Issuer key set fetches by result"
  | calls => "Outbound service calls carrying the inbound bearer token"

def counter (m : Metrics) : Family → Counter
  | requests => m.requests
  | decisions => m.gateDecisions
  | fetches => m.keySetFetches
  | calls => m.propagatedCalls

end Family

namespace MetricEvent

/-- The family that counts an event. -/
def family : MetricEvent → Family
  | request .. => .requests
  | gateDecision .. => .decisions
  | keySetFetch .. => .fetches
  | propagatedCall .. => .calls

/-- **The labels that an event is recorded with,** in the order of their names. -/
def labels : MetricEvent → List (String × String)
  | request method route status _ => [("method", method), ("route", route), ("status", status.render)]
  | gateDecision outcome reason => ("outcome", outcome) :: reason.toList.map ("reason", ·)
  | keySetFetch result => [("result", result)]
  | propagatedCall service result authenticated =>
    [("authenticated", if authenticated then "true" else "false"), ("result", result), ("service", service)]

/-- The labels of an event in the order in which they are given. -/
def given : MetricEvent → Labels
  | request method route status _ =>
    [("method", some method), ("route", some route), ("status", some status.render)]
  | gateDecision outcome reason => [("outcome", some outcome), ("reason", reason)]
  | keySetFetch result => [("result", some result)]
  | propagatedCall service result authenticated =>
    [("service", some service), ("result", some result),
      ("authenticated", some (if authenticated then "true" else "false"))]

/-- The texts of an event that are given and not made here. -/
def texts : MetricEvent → List String
  | request method route _ _ => [method, route]
  | gateDecision outcome reason => outcome :: reason.toList
  | keySetFetch result => [result]
  | propagatedCall service result _ => [service, result]

/-- **An event whose texts are plain.** -/
def Plain (e : MetricEvent) : Prop := ∀ value ∈ e.texts, Labels.isPlain value = true

instance (e : MetricEvent) : Decidable e.Plain :=
  inferInstanceAs (Decidable (∀ value ∈ e.texts, Labels.isPlain value = true))

/-- The method and the route of a request, which the histogram is kept by. -/
def place (method route : String) : List (String × String) := [("method", method), ("route", route)]

/-- The place and the duration of a request. -/
def duration? : MetricEvent → Option (List (String × String) × Number)
  | request method route _ duration => some (place method route, duration)
  | _ => none

theorem labels_ne_nil (e : MetricEvent) : e.labels ≠ [] := by cases e <;> simp [labels]

/-- The text of a number is plain. -/
theorem isPlain_of_isNumeral {value : String} (numeral : Exposition.IsNumeral value) : Labels.isPlain value = true := by
  rw [Labels.isPlain, List.all_eq_true]
  intro c there
  by_cases special : c = ',' ∨ c = '=' ∨ c = '\\' ∨ c = '\n'
  · rcases special with rfl | rfl | rfl | rfl <;> exact absurd there (numeral.not_mem (by decide))
  · simpa [and_assoc] using special

/-- The names of all labels. -/
def labelNames : List String :=
  ["method", "route", "status", "le", "outcome", "reason", "result", "authenticated", "service"]

theorem isName_of_mem_labelNames : ∀ name ∈ labelNames, Exposition.isName name.toList = true := by decide

theorem name_mem_labelNames (e : MetricEvent) : ∀ l ∈ e.labels, l.1 ∈ labelNames := by
  cases e with
  | gateDecision outcome reason => cases reason <;> simp [labels, labelNames]
  | _ => simp [labels, labelNames]

/-- The values of a plain event are plain, also those that are made here. -/
theorem Plain.values {e : MetricEvent} (plain : e.Plain) : ∀ l ∈ e.labels, Labels.isPlain l.2 = true := by
  cases e with
  | request method route status duration =>
    have status_plain := isPlain_of_isNumeral status.render_chars
    simpa [labels, Plain, texts, status_plain] using plain
  | gateDecision outcome reason =>
    cases reason <;> simpa [labels, Plain, texts] using plain
  | keySetFetch result => simpa [labels, Plain, texts] using plain
  | propagatedCall service result authenticated =>
    have authenticated_plain : Labels.isPlain (if authenticated then "true" else "false") = true := by
      cases authenticated <;> decide
    simpa [labels, Plain, texts, authenticated_plain, and_comm] using plain

/-- **The labels of a plain event are plain.** -/
theorem Plain.labels {e : MetricEvent} (plain : e.Plain) : ∀ l ∈ e.labels, Labels.Plain l :=
  fun l there => ⟨isName_of_mem_labelNames l.1 (name_mem_labelNames e l there), plain.values l there⟩

/-- The place of a plain request is plain. -/
theorem Plain.place {e : MetricEvent} (plain : e.Plain) {r : List (String × String) × Number}
    (timed : e.duration? = some r) : r.1 ≠ [] ∧ ∀ l ∈ r.1, Labels.Plain l := by
  cases e with
  | request method route status duration =>
    cases timed
    refine ⟨by simp [MetricEvent.place], fun l there => plain.labels l ?_⟩
    simp only [MetricEvent.place, List.mem_cons, List.not_mem_nil, or_false] at there
    rcases there with rfl | rfl <;> simp [MetricEvent.labels]
  | _ => cases timed

end MetricEvent

/-! ### Tables after a run -/

namespace Metrics

open MetricEvent

/-- **The metrics after a run of records,** from fresh counters. -/
def recorded (events : List MetricEvent) : Metrics := events.foldl record {}

/-- **An event is kept under its labels in the order of their names,** also the one kind that is given in
another order. -/
theorem key_given (e : MetricEvent) : e.given.key = Labels.joined e.labels := by
  cases e with
  | request method route status duration =>
    refine Labels.key_eq_joined (.refl _) ?_
    simp [labels, Labels.Before, Labels.entry, Text.unitOrder, Text.units, Text.charUnits, Text.unitsLe]
  | gateDecision outcome reason =>
    cases reason with
    | none => exact Labels.key_eq_joined (.refl _) (by simp [labels])
    | some reason =>
      refine Labels.key_eq_joined (.refl _) ?_
      simp [labels, Labels.Before, Labels.entry, Text.unitOrder, Text.units, Text.charUnits, Text.unitsLe]
  | keySetFetch result => exact Labels.key_eq_joined (.refl _) (by simp [labels])
  | propagatedCall service result authenticated =>
    refine Labels.key_eq_joined (List.reverse_perm _).symm ?_
    simp [labels, Labels.Before, Labels.entry, Text.unitOrder, Text.units, Text.charUnits, Text.unitsLe]

theorem key_place (method route : String) :
    Labels.key [("method", some method), ("route", some route)] = Labels.joined (place method route) := by
  refine Labels.key_eq_joined (.refl _) ?_
  simp [place, Labels.Before, Labels.entry, Text.unitOrder, Text.units, Text.charUnits, Text.unitsLe]

/-- **A record counts one in its own family and nothing in the others.** -/
theorem counts_record (m : Metrics) (e : MetricEvent) (f : Family) :
    (f.counter (m.record e)).counts =
      if e.family = f then
        Table.alter (f.counter m).counts (Labels.joined e.labels) fun found => found.getD 0 + 1
      else (f.counter m).counts := by
  rw [← key_given]
  cases e <;> cases f <;> rfl

/-- A record of a request adds its duration at its place, and no other record adds any. -/
theorem durations_record (m : Metrics) (e : MetricEvent) :
    (m.record e).durations =
      match e.duration? with
      | some r => Table.alter m.durations (Labels.joined r.1) fun found => (found.getD {}).add r.2
      | none => m.durations := by
  cases e with
  | request method route status duration =>
    simp only [duration?, ← key_place]
    rfl
  | _ => rfl

/-- **The counts after a run** are its events gathered by their labels. -/
theorem counts_recorded (events : List MetricEvent) (f : Family) :
    (f.counter (recorded events)).counts =
      Table.gathered (fun e : MetricEvent => Labels.joined e.labels) 0 (fun n _ => n + 1)
        (events.filter (·.family = f)) := by
  have run : ∀ m : Metrics, (f.counter (events.foldl record m)).counts =
      (events.filter (·.family = f)).foldl
        (fun t e => Table.alter t (Labels.joined e.labels) fun found => found.getD 0 + 1) (f.counter m).counts := by
    induction events with
    | nil => exact fun m => rfl
    | cons e events ih =>
      intro m
      rw [List.foldl_cons, ih, counts_record]
      by_cases own : e.family = f
      · simp [own]
      · simp [own]
  have fresh : (f.counter ({} : Metrics)).counts = [] := by cases f <;> rfl
  rw [recorded, run, fresh, ← Table.foldl_alter]

/-- **The durations after a run** are those of its requests gathered by their places. -/
theorem durations_recorded (events : List MetricEvent) :
    (recorded events).durations =
      Table.gathered (fun r : List (String × String) × Number => Labels.joined r.1) {} (fun d r => d.add r.2)
        (events.filterMap duration?) := by
  have run : ∀ m : Metrics, (events.foldl record m).durations =
      (events.filterMap duration?).foldl
        (fun t r => Table.alter t (Labels.joined r.1) fun found => (found.getD {}).add r.2) m.durations := by
    induction events with
    | nil => exact fun m => rfl
    | cons e events ih =>
      intro m
      rw [List.foldl_cons, ih, durations_record]
      cases timed : e.duration? with
      | none => simp [timed]
      | some r => simp [timed]
  rw [recorded, run, ← Table.foldl_alter]

/-! ### One event more -/

/-- Whether an event is counted in a family under a text. -/
def CountedUnder (f : Family) (key : String) (e : MetricEvent) : Prop := f = e.family ∧ key = Labels.joined e.labels

instance (f : Family) (key : String) : DecidablePred (CountedUnder f key) :=
  fun e => inferInstanceAs (Decidable (f = e.family ∧ key = Labels.joined e.labels))

/-- **Metrics that count one event more,** and hold for the rest what they have held. -/
structure CountsAlso (m : Metrics) (e : MetricEvent) (m' : Metrics) : Prop where
  counts : ∀ (f : Family) (key : String),
    (f.counter m').get key = (f.counter m).get key + if CountedUnder f key e then 1 else 0
  durations : e.duration? = none → m'.durations = m.durations

theorem countsAlso_record (m : Metrics) (e : MetricEvent) : m.CountsAlso e (m.record e) where
  counts f key := by
    unfold Counter.get
    rw [counts_record]
    by_cases own : e.family = f
    · rw [if_pos own]
      by_cases same : key = Labels.joined e.labels
      · rw [same, Table.get?_alter_self, if_pos ⟨own.symm, rfl⟩, Option.getD_some]
      · rw [Table.get?_alter_of_ne _ _ same, if_neg fun both => same both.2, Nat.add_zero]
    · rw [if_neg own, if_neg fun both => own both.1.symm, Nat.add_zero]
  durations untimed := by rw [durations_record, untimed]

/-- **The count under a text** is the number of events that are counted there. -/
theorem get_recorded (events : List MetricEvent) (f : Family) (key : String) :
    (f.counter (recorded events)).get key = events.countP (CountedUnder f key) := by
  have run : ∀ m : Metrics, (f.counter (events.foldl record m)).get key =
      (f.counter m).get key + events.countP (CountedUnder f key) := by
    induction events with
    | nil => exact fun m => rfl
    | cons e events ih =>
      intro m
      rw [List.foldl_cons, ih, (countsAlso_record m e).counts, List.countP_cons, Nat.add_assoc,
        Nat.add_comm (List.countP _ events)]
      simp only [decide_eq_true_eq]
  have fresh : (f.counter ({} : Metrics)).get key = 0 := by cases f <;> rfl
  rw [recorded, run, fresh, Nat.zero_add]

end Metrics

end BearerGate
