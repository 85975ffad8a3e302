import BearerGate.Proofs.Metrics.Recording

/-!
# The samples of a page

`Metrics.samples` are the samples that the tables of the metrics stand for: for each family one of every
label set, and for each place those of its durations.  When all label sets are plain, they are what a
collector takes from the text of the metrics (`readPage?_render`); each part of the text is shown to be
written as its samples want it.
-/

namespace BearerGate

namespace Exposition

/-! ### Lines with plain labels -/

theorem isNumeral_toString (n : Nat) : IsNumeral (toString n) := by
  refine ⟨fun empty => ?_, fun c there => .inl ?_⟩
  · have none_there : Number.digitsOf n = [] := congrArg String.toList empty
    rw [Number.digitsOf_eq] at none_there
    exact Nat.toDigits_ne_nil none_there
  · rw [Char.isAlphanum, Number.isDigit_of_mem_digitsOf there, Bool.or_true]

theorem quotesEscaped_eq_self {cs : List Char} (unquoted : '"' ∉ cs) : quotesEscaped cs = cs := by
  induction cs with
  | nil => rfl
  | cons c cs ih =>
    rw [List.mem_cons, not_or] at unquoted
    rw [quotesEscaped, List.flatMap_cons, ← quotesEscaped, ih unquoted.2, if_neg (Ne.symm unquoted.1)]
    rfl

theorem writtenLabels_concat {ls : List (String × String)} (some_there : ls ≠ []) (l : String × String) :
    writtenLabels (ls ++ [l]) = writtenLabels ls ++ "," ++ writtenLabel l := by
  induction ls with
  | nil => exact absurd rfl some_there
  | cons k ls ih =>
    cases ls with
    | nil => simp [writtenLabels]
    | cons k' ls =>
      have rest := ih (by simp)
      simp only [writtenLabels, List.map_cons, List.cons_append, String.intercalate_cons_cons] at rest ⊢
      rw [rest]
      simp only [String.append_assoc]

/-- No line end is written in plain labels. -/
theorem not_mem_writtenLabels {ls : List (String × String)} (plain : ∀ l ∈ ls, Labels.Plain l) :
    '\n' ∉ (writtenLabels ls).toList := by
  have each : ∀ l ∈ ls, '\n' ∉ (writtenLabel l).toList := by
    intro l there
    have name := (Labels.not_mem_of_isPlain (Labels.isPlain_of_isName (plain l there).name)).2.2.2
    have value := (Labels.not_mem_of_isPlain (plain l there).value).2.2.2
    have escaped : '\n' ∉ quotesEscaped l.2.toList := by
      rw [quotesEscaped, List.mem_flatMap]
      rintro ⟨c, c_there, inside⟩
      split at inside
      · simp at inside
      · exact value (List.mem_singleton.1 inside ▸ c_there)
    simpa [writtenLabel] using ⟨name, escaped⟩
  induction ls with
  | nil => simp [writtenLabels]
  | cons l ls ih =>
    have first := each l List.mem_cons_self
    cases ls with
    | nil => simpa [writtenLabels] using first
    | cons l' ls =>
      have rest := ih (fun k there => plain k (List.mem_cons_of_mem l there))
        fun k there => each k (List.mem_cons_of_mem l there)
      simp only [writtenLabels, List.map_cons, String.intercalate_cons_cons, String.toList_append,
        List.mem_append, not_or] at rest ⊢
      exact ⟨⟨first, by decide⟩, rest⟩

/-- **A line with plain labels is one sample.** -/
theorem written_line {family : String} (named : isName family.toList = true) {ls : List (String × String)}
    (some_there : ls ≠ []) (plain : ∀ l ∈ ls, Labels.Plain l) {value : String} (numeral : IsNumeral value) :
    Written [family ++ "\x7b" ++ writtenLabels ls ++ "\x7d " ++ value] [⟨family, ls, value⟩] := by
  refine .sample ?_ ?_ (readLine?_of_legible named some_there (fun l there => (plain l there).legible) numeral) .nil
  · have family_whole := (Labels.not_mem_of_isPlain (Labels.isPlain_of_isName named)).2.2.2
    have labels_whole := not_mem_writtenLabels plain
    have value_whole : '\n' ∉ value.toList := numeral.not_mem (by decide)
    simpa using ⟨family_whole, labels_whole, value_whole⟩
  · cases chars : family.toList with
    | nil =>
      rw [chars] at named
      exact absurd named (by decide)
    | cons c cs =>
      rw [chars, isName, Bool.and_eq_true] at named
      simp only [String.toList_append, chars, List.cons_append, List.head?_cons, ne_eq, Option.some.injEq]
      rintro rfl
      exact absurd named.1 (by decide)

end Exposition

namespace Metrics

open Exposition

/-! ### The samples of the tables -/

/-- The samples of a family of counters: one for each label set. -/
def samplesOf (f : Family) (counts : Table Nat) : List Sample :=
  counts.map fun e => ⟨f.name, Labels.read e.1, toString e.2⟩

/-- The samples of one place: one for each bound, one for all durations, their count and their sum. -/
def durationSamples (d : Durations) (ls : List (String × String)) : List Sample :=
  ((durationBounds.zip (runningSums 0 d.buckets)).map fun e =>
      ⟨"http_request_duration_ms_bucket", ls ++ [("le", toString e.1)], toString e.2⟩) ++
    [⟨"http_request_duration_ms_bucket", ls ++ [("le", "+Inf")], toString d.count⟩,
      ⟨"http_request_duration_ms_count", ls, toString d.count⟩,
      ⟨"http_request_duration_ms_sum", ls, d.sum.render⟩]

/-- **All samples of the metrics.** -/
def samples (m : Metrics) : List Sample :=
  Family.all.flatMap (fun f => samplesOf f (f.counter m).counts) ++
    m.durations.flatMap fun e => durationSamples e.2 (Labels.read e.1)

/-- A text that keeps plain labels. -/
def Keeps (text : String) : Prop := ∃ ls, ls ≠ [] ∧ (∀ l ∈ ls, Labels.Plain l) ∧ text = Labels.joined ls

theorem written_counter (f : Family) {c : Counter} (kept : ∀ e ∈ c.counts, Keeps e.1) :
    Written (c.lines f.name f.help) (samplesOf f c.counts) := by
  have headings : Written ["# HELP " ++ f.name ++ " " ++ f.help, "# TYPE " ++ f.name ++ " counter"] [] := by
    exact .comments (by cases f <;> decide)
  have each : ∀ e ∈ c.counts, Written [f.name ++ "\x7b" ++ Labels.render e.1 ++ "\x7d " ++ toString e.2]
      [⟨f.name, Labels.read e.1, toString e.2⟩] := by
    intro e there
    obtain ⟨ls, some_there, plain, text⟩ := kept e there
    rw [text, Labels.render_joined some_there plain, Labels.read_joined some_there plain]
    exact written_line (by cases f <;> decide) some_there plain (isNumeral_toString e.2)
  have all := headings.append (Written.flatMap each)
  rwa [← List.map_eq_flatMap, ← List.map_eq_flatMap] at all

/-- The line of one bucket, with its bound as one more label. -/
def bucketLine (labels bound : String) (n : Nat) : String :=
  "http_request_duration_ms_bucket" ++ "\x7b" ++ (labels ++ "," ++ ("le=\"" ++ bound ++ "\"")) ++ "\x7d " ++ toString n

/-- The lines of one place as names, labels and numbers. -/
theorem lines_durations (d : Durations) (labels : String) :
    d.lines labels =
      ((durationBounds.zip (runningSums 0 d.buckets)).map fun e => bucketLine labels (toString e.1) e.2) ++
        ([bucketLine labels "+Inf" d.count] ++
          (["http_request_duration_ms_count" ++ "\x7b" ++ labels ++ "\x7d " ++ toString d.count] ++
            ["http_request_duration_ms_sum" ++ "\x7b" ++ labels ++ "\x7d " ++ d.sum.render])) := by
  have bucket : ∀ (bound : String) (n : Nat),
      "http_request_duration_ms" ++ "_bucket\x7b" ++ labels ++ ",le=\"" ++ bound ++ "\"\x7d " ++ toString n =
        bucketLine labels bound n := by
    intro bound n
    unfold bucketLine
    apply String.toList_inj.1
    simp
  have last : "http_request_duration_ms" ++ "_bucket\x7b" ++ labels ++ ",le=\"+Inf\"\x7d " ++ toString d.count =
      bucketLine labels "+Inf" d.count := by
    unfold bucketLine
    apply String.toList_inj.1
    simp
  have count : "http_request_duration_ms" ++ "_count\x7b" ++ labels ++ "\x7d " ++ toString d.count =
      "http_request_duration_ms_count" ++ "\x7b" ++ labels ++ "\x7d " ++ toString d.count := by
    apply String.toList_inj.1
    simp
  have sum : "http_request_duration_ms" ++ "_sum\x7b" ++ labels ++ "\x7d " ++ d.sum.render =
      "http_request_duration_ms_sum" ++ "\x7b" ++ labels ++ "\x7d " ++ d.sum.render := by
    apply String.toList_inj.1
    simp
  simp only [Durations.lines, last, count, sum, bucket, ← List.map_uncurry_zip_eq_zipWith, Function.uncurry_def]
  rfl

theorem written_bucket {ls : List (String × String)} (some_there : ls ≠ []) (plain : ∀ l ∈ ls, Labels.Plain l)
    (bound : String) (bound_plain : Labels.isPlain bound = true) (unquoted : '"' ∉ bound.toList) (n : Nat) :
    Written [bucketLine (writtenLabels ls) bound n]
      [⟨"http_request_duration_ms_bucket", ls ++ [("le", bound)], toString n⟩] := by
  have plain' : ∀ l ∈ ls ++ [("le", bound)], Labels.Plain l := by
    intro l there
    rcases List.mem_append.1 there with before | last
    · exact plain l before
    · rw [List.mem_singleton.1 last]
      exact ⟨MetricEvent.isName_of_mem_labelNames "le" (by decide), bound_plain⟩
  have line := written_line (by decide : isName "http_request_duration_ms_bucket".toList = true)
    (by simp) plain' (isNumeral_toString n)
  have le_written : writtenLabel ("le", bound) = "le=\"" ++ bound ++ "\"" := by
    rw [writtenLabel, quotesEscaped_eq_self unquoted, String.ofList_toList]
    rfl
  rwa [writtenLabels_concat some_there, le_written] at line

theorem written_durations (d : Durations) {text : String} (kept : Keeps text) :
    Written (d.lines (Labels.render text)) (durationSamples d (Labels.read text)) := by
  obtain ⟨ls, some_there, plain, rfl⟩ := kept
  have bounds : ∀ e ∈ durationBounds.zip (runningSums 0 d.buckets),
      Written [bucketLine (writtenLabels ls) (toString e.1) e.2]
        [⟨"http_request_duration_ms_bucket", ls ++ [("le", toString e.1)], toString e.2⟩] :=
    fun e _ => written_bucket some_there plain (toString e.1)
      (MetricEvent.isPlain_of_isNumeral (isNumeral_toString e.1)) ((isNumeral_toString e.1).not_mem (by decide)) e.2
  have all := written_bucket some_there plain "+Inf" (by decide) (by decide) d.count
  have count := written_line (by decide : isName "http_request_duration_ms_count".toList = true) some_there plain
    (isNumeral_toString d.count)
  have sum := written_line (by decide : isName "http_request_duration_ms_sum".toList = true) some_there plain
    d.sum.render_chars
  have parts := (Written.flatMap bounds).append (all.append (count.append sum))
  rw [← List.map_eq_flatMap, ← List.map_eq_flatMap] at parts
  rw [Labels.render_joined some_there plain, Labels.read_joined some_there plain, lines_durations]
  exact parts

/-- **A collector takes the samples of the metrics from their text.** -/
theorem readPage?_render {m : Metrics} (counts : ∀ (f : Family), ∀ e ∈ (f.counter m).counts, Keeps e.1)
    (durations : ∀ e ∈ m.durations, Keeps e.1) : readPage? m.render = some m.samples := by
  have counters : Written (Family.all.flatMap fun f => (f.counter m).lines f.name f.help)
      (Family.all.flatMap fun f => samplesOf f (f.counter m).counts) :=
    Written.flatMap fun f _ => written_counter f (counts f)
  have headings : Written ["# HELP http_request_duration_ms HTTP request duration in ms",
      "# TYPE http_request_duration_ms histogram"] [] :=
    .comments (by decide)
  have histogram : Written (m.durations.flatMap fun e => e.2.lines (Labels.render e.1))
      (m.durations.flatMap fun e => durationSamples e.2 (Labels.read e.1)) :=
    Written.flatMap fun e there => written_durations e.2 (durations e there)
  have all := (counters.append headings).append histogram
  have lines_eq : m.lines = (Family.all.flatMap fun f => (f.counter m).lines f.name f.help) ++
      ["# HELP http_request_duration_ms HTTP request duration in ms",
        "# TYPE http_request_duration_ms histogram"] ++ m.durations.flatMap fun e => e.2.lines (Labels.render e.1) := by
    simp only [lines, Family.all, List.flatMap_cons, List.flatMap_nil, List.append_nil, List.append_assoc]
    rfl
  rw [List.append_nil, ← lines_eq] at all
  exact readPage?_of_written all (by simp [lines])

end Metrics

end BearerGate
