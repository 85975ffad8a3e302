import Mathlib.Data.List.Count
import BearerGate.Proofs.Metrics.Page

/-!
# Counters that can be read back

A page is **faithful** to the records of a run if it can be read and, in every family and for every label
set, holds one sample with the number of records with that set, or none if there was no such record.

Records with plain texts lead to faithful pages (`Metrics.counters_faithful`).  The texts are plain if none
has one of four characters, and each of the four can spoil a page: a comma and an equals sign are taken for
those between labels, and a backslash and a line feed are written as they stand
(`Metrics.special_characters_spoil`).
-/

namespace BearerGate

open Exposition

/-- In a list without repetitions, one member is picked out. -/
theorem flatMap_pick {γ : Type} {texts : List String} (nodup : texts.Nodup) {text : String} (there : text ∈ texts)
    (pick : String → List γ) : (texts.flatMap fun t => if t = text then pick t else []) = pick text := by
  induction texts with
  | nil => cases there
  | cons t ts ih =>
    rw [List.nodup_cons] at nodup
    rw [List.flatMap_cons]
    by_cases same : t = text
    · have none_later : (ts.flatMap fun t => if t = text then pick t else []) = [] := by
        rw [List.flatMap_eq_nil_iff]
        intro u u_there
        rw [if_neg]
        rintro rfl
        exact nodup.1 (same ▸ u_there)
      rw [none_later, if_pos same, List.append_nil, same]
    · rw [if_neg same, List.nil_append, ih nodup.2 ((List.mem_cons.1 there).resolve_left (Ne.symm same))]

namespace Labels

/-- Plain labels are told apart by the text that keeps them. -/
theorem joined_inj {ls ks : List (String × String)} (ls_there : ls ≠ []) (ls_plain : ∀ l ∈ ls, Plain l)
    (ks_there : ks ≠ []) (ks_plain : ∀ l ∈ ks, Plain l) : joined ls = joined ks ↔ ls = ks := by
  refine ⟨fun same => ?_, fun same => congrArg joined same⟩
  rw [← read_joined ls_there ls_plain, same, read_joined ks_there ks_plain]

variable {α β γ : Type} {labelsOf : β → List (String × String)} {xs : List β}

/-- **What is gathered under one label set** is made of the records with that set, when all sets are plain. -/
theorem flatMap_gathered (plain : ∀ x ∈ xs, labelsOf x ≠ [] ∧ ∀ l ∈ labelsOf x, Plain l) (start : α)
    (add : α → β → α) (pick : α → List γ) (ls : List (String × String)) :
    ((Table.gathered (fun x => joined (labelsOf x)) start add xs).flatMap fun e =>
        if read e.1 = ls then pick e.2 else []) =
      if xs.filter (labelsOf · = ls) = [] then [] else pick ((xs.filter (labelsOf · = ls)).foldl add start) := by
  have from_record : ∀ text ∈ Text.distinct (xs.map fun x => joined (labelsOf x)),
      ∃ x ∈ xs, text = joined (labelsOf x) ∧ read text = labelsOf x := by
    intro text there
    obtain ⟨x, x_there, rfl⟩ := List.mem_map.1 (Text.mem_distinct.1 there)
    exact ⟨x, x_there, rfl, read_joined (plain x x_there).1 (plain x x_there).2⟩
  rw [Table.gathered, List.flatMap_map]
  by_cases none_there : xs.filter (labelsOf · = ls) = []
  · rw [if_pos none_there, List.flatMap_eq_nil_iff]
    intro text there
    obtain ⟨x, x_there, -, kept⟩ := from_record text there
    rw [if_neg]
    intro same
    rw [List.filter_eq_nil_iff] at none_there
    exact none_there x x_there (decide_eq_true (kept.symm.trans same))
  · obtain ⟨y, y_kept⟩ := List.exists_mem_of_ne_nil _ none_there
    obtain ⟨y_there, own⟩ := List.mem_filter.1 y_kept
    have own : labelsOf y = ls := of_decide_eq_true own
    have ls_plain : ls ≠ [] ∧ ∀ l ∈ ls, Plain l := own ▸ plain y y_there
    have same_text : ∀ x ∈ xs, joined (labelsOf x) = joined ls ↔ labelsOf x = ls := fun x x_there =>
      joined_inj (plain x x_there).1 (plain x x_there).2 ls_plain.1 ls_plain.2
    have gathered_there : joined ls ∈ Text.distinct (xs.map fun x => joined (labelsOf x)) :=
      Text.mem_distinct.2 (List.mem_map.2 ⟨y, y_there, congrArg joined own⟩)
    have by_text : (xs.filter fun x => joined (labelsOf x) = joined ls) = xs.filter (labelsOf · = ls) :=
      List.filter_congr fun x x_there => decide_eq_decide.2 (same_text x x_there)
    rw [if_neg none_there, ← by_text,
      ← flatMap_pick (Text.nodup_distinct _) gathered_there fun text =>
        pick ((xs.filter fun x => joined (labelsOf x) = text).foldl add start)]
    refine List.flatMap_congr fun text there => ?_
    obtain ⟨x, x_there, of_x, kept⟩ := from_record text there
    have picked : read text = ls ↔ text = joined ls := by rw [kept, of_x, same_text x x_there]
    simp only [picked]

end Labels

namespace Metrics

open MetricEvent

/-! ### What a page says -/

/-- How many records a family has with one label set. -/
def times (events : List MetricEvent) (family : Family) (labels : List (String × String)) : Nat :=
  events.countP fun e => e.family = family ∧ e.labels = labels

/-- The samples of a name with one label set. -/
def under (samples : List Sample) (name : String) (labels : List (String × String)) : List Sample :=
  samples.filter fun s => s.name = name ∧ s.labels = labels

/-- **A page that says what was recorded.** -/
def Faithful (events : List MetricEvent) : Prop :=
  ∃ samples, readPage? (recorded events).render = some samples ∧
    ∀ (family : Family) (labels : List (String × String)),
      under samples family.name labels =
        if times events family labels = 0 then []
        else [⟨family.name, labels, toString (times events family labels)⟩]

/-! ### Plain records -/

variable {events : List MetricEvent}

/-- The texts of a table of plain records keep plain labels. -/
theorem keeps_of_mem_gathered {α β : Type} {labelsOf : β → List (String × String)} {xs : List β}
    (plain : ∀ x ∈ xs, labelsOf x ≠ [] ∧ ∀ l ∈ labelsOf x, Labels.Plain l) {start : α} {add : α → β → α} :
    ∀ e ∈ Table.gathered (fun x => Labels.joined (labelsOf x)) start add xs, Keeps e.1 := by
  intro e there
  obtain ⟨text, text_there, rfl⟩ := List.mem_map.1 there
  obtain ⟨x, x_there, rfl⟩ := List.mem_map.1 (Text.mem_distinct.1 text_there)
  exact ⟨labelsOf x, (plain x x_there).1, (plain x x_there).2, rfl⟩

/-- The page of plain records can be read. -/
theorem readPage?_recorded (plain : ∀ e ∈ events, e.Plain) :
    readPage? (recorded events).render = some (recorded events).samples := by
  refine readPage?_render (fun f => ?_) ?_
  · rw [counts_recorded]
    exact keeps_of_mem_gathered fun e there => ⟨e.labels_ne_nil, (plain e (List.mem_of_mem_filter there)).labels⟩
  · rw [durations_recorded]
    refine keeps_of_mem_gathered fun r there => ?_
    obtain ⟨e, e_there, timed⟩ := List.mem_filterMap.1 there
    exact (plain e e_there).place timed

/-- The samples of the histogram are of no family of counters. -/
theorem name_of_mem_durationSamples {d : Durations} {ls : List (String × String)} {s : Sample}
    (there : s ∈ durationSamples d ls) (f : Family) : s.name ≠ f.name := by
  have named : s.name ∈ ["http_request_duration_ms_bucket", "http_request_duration_ms_count",
      "http_request_duration_ms_sum"] := by
    simp only [durationSamples, List.mem_append, List.mem_map, List.mem_cons, List.not_mem_nil, or_false] at there
    rcases there with ⟨e, -, rfl⟩ | rfl | rfl | rfl <;> simp
  have others : ∀ name ∈ ["http_request_duration_ms_bucket", "http_request_duration_ms_count",
      "http_request_duration_ms_sum"], name ≠ f.name := by cases f <;> decide
  exact others s.name named

/-- The samples under the name of a family are those of its counter. -/
theorem filter_samples (m : Metrics) (f : Family) (p : List (String × String) → Prop) [DecidablePred p] :
    (m.samples.filter fun s => s.name = f.name ∧ p s.labels) =
      (samplesOf f (f.counter m).counts).filter fun s => p s.labels := by
  have histogram : ((m.durations.flatMap fun e => durationSamples e.2 (Labels.read e.1)).filter
      fun s => s.name = f.name ∧ p s.labels) = [] := by
    rw [List.filter_eq_nil_iff]
    intro s there
    obtain ⟨e, -, s_there⟩ := List.mem_flatMap.1 there
    simp [name_of_mem_durationSamples s_there f]
  have other : ∀ g : Family, g ≠ f →
      ((samplesOf g (g.counter m).counts).filter fun s => s.name = f.name ∧ p s.labels) = [] := by
    intro g ne
    have names : g.name ≠ f.name := by
      revert ne
      cases g <;> cases f <;> decide
    rw [List.filter_eq_nil_iff]
    intro s there
    obtain ⟨e, -, rfl⟩ := List.mem_map.1 there
    simp [names]
  have own : ((samplesOf f (f.counter m).counts).filter fun s => s.name = f.name ∧ p s.labels) =
      (samplesOf f (f.counter m).counts).filter fun s => p s.labels := by
    refine List.filter_congr fun s there => ?_
    obtain ⟨e, -, rfl⟩ := List.mem_map.1 there
    simp
  rw [samples, List.filter_append, histogram, List.append_nil, List.filter_flatMap, ← own]
  cases f <;> simp only [Family.all, List.flatMap_cons, List.flatMap_nil, ne_eq, reduceCtorEq, not_false_eq_true,
    other, List.nil_append, List.append_nil]

/-- The samples of a family with one label set. -/
theorem under_samples (m : Metrics) (f : Family) (ls : List (String × String)) :
    under m.samples f.name ls =
      (f.counter m).counts.flatMap fun e =>
        if Labels.read e.1 = ls then [⟨f.name, ls, toString e.2⟩] else [] := by
  rw [under, filter_samples m f (· = ls), samplesOf]
  induction (f.counter m).counts with
  | nil => rfl
  | cons e counts ih =>
    rw [List.map_cons, List.flatMap_cons, List.filter_cons, ih]
    by_cases same : Labels.read e.1 = ls
    · simp [same]
    · simp [same]

/-- **The counters of plain records can be read back.** -/
theorem counters_faithful (plain : ∀ e ∈ events, e.Plain) : Faithful events := by
  refine ⟨(recorded events).samples, readPage?_recorded plain, fun f ls => ?_⟩
  have own_plain : ∀ e ∈ events.filter (·.family = f), e.labels ≠ [] ∧ ∀ l ∈ e.labels, Labels.Plain l :=
    fun e there => ⟨e.labels_ne_nil, (plain e (List.mem_of_mem_filter there)).labels⟩
  have counted : (events.filter (·.family = f)).filter (·.labels = ls) =
      events.filter fun e => e.family = f ∧ e.labels = ls := by
    rw [List.filter_filter]
    refine List.filter_congr fun e _ => ?_
    rw [← Bool.decide_and, decide_eq_decide, and_comm]
  have number : ∀ es : List MetricEvent, es.foldl (fun n _ => n + 1) 0 = es.length := by
    intro es
    rw [List.foldl_const]
    simp
  rw [under_samples, counts_recorded, Labels.flatMap_gathered own_plain 0 (fun n _ => n + 1)
    (fun n => [(⟨f.name, ls, toString n⟩ : Sample)]) ls, counted, number, times, List.countP_eq_length_filter]
  simp only [List.length_eq_zero_iff]

/-- Two requests under one label set, one under another, and a reason with quotes in it. -/
def quotedReason : List MetricEvent :=
  [.request "GET" "/api/users/:id" (.ofNat 200) (.ofNat 7), .gateDecision "rejected" (some "a \"b\""),
    .request "GET" "/api/users/:id" (.ofNat 200) (.ofNat 30), .request "GET" "/api/users/:id" (.ofNat 404) (.ofNat 1)]

theorem counters_faithful_with_quotes : (∀ e ∈ quotedReason, e.Plain) ∧ Faithful quotedReason :=
  ⟨by decide +kernel, counters_faithful (by decide +kernel)⟩

/-! ### Records that are not plain -/

/-- A rejection for a reason that has a given character in it. -/
def rejectionFor (c : Char) : MetricEvent := .gateDecision "rejected" (some (String.ofList ['a', c, 'b']))

/-- The line of one decision of the gate that is kept under a text. -/
def decisionLine (text : String) : String :=
  "auth_gate_decisions_total" ++ "\x7b" ++ Labels.render text ++ "\x7d " ++ toString 1

/-- The line of one rejection. -/
def rejectionLine (c : Char) : String := decisionLine ("outcome=rejected,reason=" ++ String.ofList ['a', c, 'b'])

/-- The page of one rejection: its line stands between the headings of a page without samples. -/
theorem render_rejectionFor (c : Char) : (recorded [rejectionFor c]).render =
    String.intercalate "\n" (({} : Metrics).lines.take 4 ++ rejectionLine c :: ({} : Metrics).lines.drop 4) ++ "\n" := by
  have kept : (rejectionFor c).given.key = "outcome=rejected,reason=" ++ String.ofList ['a', c, 'b'] := by
    refine (key_given (rejectionFor c)).trans (String.toList_inj.1 ?_)
    simp [rejectionFor, MetricEvent.labels, Labels.joined, Labels.entry]
  have lines : (recorded [rejectionFor c]).lines = ({} : Metrics).lines.take 4 ++
      decisionLine (rejectionFor c).given.key :: ({} : Metrics).lines.drop 4 := rfl
  rw [render, lines, kept, rejectionLine]

/-- The headings of a page are no samples. -/
theorem headings : ∀ line ∈ ({} : Metrics).lines, '\n' ∉ line.toList ∧ line.toList.head? = some '#' := by
  decide +kernel

/-- A page without the labels of the rejection is not faithful to it. -/
theorem not_faithful {c : Char}
    (unsaid : ∀ samples, readPage? (recorded [rejectionFor c]).render = some samples →
      under samples Family.decisions.name (rejectionFor c).labels = []) : ¬Faithful [rejectionFor c] := by
  rintro ⟨samples, read, told⟩
  have once : times [rejectionFor c] .decisions (rejectionFor c).labels = 1 := by
    simp [times, rejectionFor, MetricEvent.family]
  have said := told .decisions (rejectionFor c).labels
  rw [unsaid samples read, once, if_neg (by decide)] at said
  cases said

/-- A page whose line of the rejection is read as one sample. -/
theorem readPage?_rejectionFor {c : Char} (one : '\n' ∉ (rejectionLine c).toList)
    (starts : (rejectionLine c).toList.head? ≠ some '#') {s : Sample} (read : readLine? (rejectionLine c) = some s) :
    readPage? (recorded [rejectionFor c]).render = some [s] := by
  have before : Written (({} : Metrics).lines.take 4) [] :=
    .comments fun line there => headings line (List.mem_of_mem_take there)
  have after : Written (({} : Metrics).lines.drop 4) [] :=
    .comments fun line there => headings line (List.mem_of_mem_drop there)
  rw [render_rejectionFor]
  exact readPage?_of_written (before.append (.sample one starts read after)) (by simp)

/-- A page with a line between its headings that cannot be read. -/
theorem readPage?_between (lines : List String) (one_line : ∀ line ∈ lines, '\n' ∉ line.toList) {line : String}
    (there : line ∈ lines) (counts : isSkipped line = false) (unreadable : readLine? line = none) :
    readPage? (String.intercalate "\n" (({} : Metrics).lines.take 4 ++ (lines ++ ({} : Metrics).lines.drop 4)) ++
      "\n") = none := by
  refine readPage?_eq_none (fun l l_there => ?_) (List.mem_append_right _ (List.mem_append_left _ there)) counts unreadable
  rcases List.mem_append.1 l_there with before | behind
  · exact (headings l (List.mem_of_mem_take before)).1
  rcases List.mem_append.1 behind with inside | after
  · exact one_line l inside
  · exact (headings l (List.mem_of_mem_drop after)).1

/-- **Each of the four characters can spoil a page.**  At the first two the reason is cut, and the other two
make a line that cannot be read. -/
theorem special_characters_spoil :
    ¬Faithful [rejectionFor ','] ∧ ¬Faithful [rejectionFor '='] ∧ ¬Faithful [rejectionFor '\\'] ∧
      ¬Faithful [rejectionFor '\n'] := by
  refine ⟨?_, ?_, ?_, ?_⟩
  · have line : rejectionLine ',' =
        "auth_gate_decisions_total\x7boutcome=\"rejected\",reason=\"a\",b=\"undefined\"\x7d 1" := by decide +kernel
    have read : readPage? (recorded [rejectionFor ',']).render =
        some [⟨"auth_gate_decisions_total", [("outcome", "rejected"), ("reason", "a"), ("b", "undefined")], "1"⟩] :=
      readPage?_rejectionFor (by rw [line]; decide) (by rw [line]; decide) (by rw [line]; decide +kernel)
    refine not_faithful fun samples read' => ?_
    rw [← Option.some.inj (read.symm.trans read')]
    decide +kernel
  · have line : rejectionLine '=' =
        "auth_gate_decisions_total\x7boutcome=\"rejected\",reason=\"a\"\x7d 1" := by decide +kernel
    have read : readPage? (recorded [rejectionFor '=']).render =
        some [⟨"auth_gate_decisions_total", [("outcome", "rejected"), ("reason", "a")], "1"⟩] :=
      readPage?_rejectionFor (by rw [line]; decide) (by rw [line]; decide) (by rw [line]; decide +kernel)
    refine not_faithful fun samples read' => ?_
    rw [← Option.some.inj (read.symm.trans read')]
    decide +kernel
  · have line : rejectionLine '\\' =
        "auth_gate_decisions_total\x7boutcome=\"rejected\",reason=\"a\\b\"\x7d 1" := by decide +kernel
    have unread : readPage? (recorded [rejectionFor '\\']).render = none := by
      rw [render_rejectionFor, line]
      exact readPage?_between [_] (by decide) (List.mem_singleton_self _) (by decide) (by decide +kernel)
    exact not_faithful fun samples read => absurd (unread.symm.trans read) (by simp)
  · have line : rejectionLine '\n' =
        "auth_gate_decisions_total\x7boutcome=\"rejected\",reason=\"a" ++ "\n" ++ "b\"\x7d 1" := by decide +kernel
    have unread : readPage? (recorded [rejectionFor '\n']).render = none := by
      rw [render_rejectionFor, line, intercalate_cut]
      exact readPage?_between ["auth_gate_decisions_total\x7boutcome=\"rejected\",reason=\"a", "b\"\x7d 1"]
        (by decide +kernel) List.mem_cons_self (by decide) (by decide +kernel)
    exact not_faithful fun samples read => absurd (unread.symm.trans read) (by simp)

end Metrics

end BearerGate
