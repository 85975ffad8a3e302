import Mathlib
import BearerGate.Proofs.Metrics.Counting
import BearerGate.Proofs.Number.Order

/-!
# Histogram and counter agree

A duration is added to the first bucket whose bound it does not pass, and the buckets are summed when they
are written.  As the bounds ascend, the sum up to a bound is the number of durations within it
(`runningSums_foldl_add`).

With that, `Metrics.histogram_agrees` reads a page: for each method and route, every bucket has the number of
durations within its bound, the buckets ascend up to the one without bound, and that one is the count of the
durations and the sum of the requests counted there, over all statuses.
-/

namespace BearerGate

open Exposition

/-! ### Buckets -/

theorem length_runningSums (start : Nat) (ns : List Nat) : (runningSums start ns).length = ns.length := by
  induction ns generalizing start with
  | nil => rfl
  | cons n ns ih => rw [runningSums, List.length_cons, List.length_cons, ih]

theorem length_addToBucket (duration : Number) (bounds ns : List Nat) :
    (addToBucket duration bounds ns).length = ns.length := by
  induction bounds generalizing ns with
  | nil => cases ns <;> rfl
  | cons bound bounds ih =>
    cases ns with
    | nil => rfl
    | cons n ns =>
      rw [addToBucket]
      split
      · rfl
      · rw [List.length_cons, List.length_cons, ih]

/-- One more in a first bucket is one more in every sum. -/
theorem runningSums_succ (start : Nat) (ns : List Nat) :
    runningSums (start + 1) ns = (runningSums start ns).map (· + 1) := by
  induction ns generalizing start with
  | nil => rfl
  | cons n ns ih =>
    have moved : start + 1 + n = start + n + 1 := by omega
    rw [runningSums, runningSums, List.map_cons, moved, ih]

/-- The sums at bounds that a duration does not pass, with one more each. -/
theorem raise_all {duration : Number} {bounds sums : List Nat} (within : ∀ b ∈ bounds, duration ≤ .ofNat b)
    (same : bounds.length = sums.length) :
    List.zipWith (fun bound n => if duration ≤ .ofNat bound then n + 1 else n) bounds sums = sums.map (· + 1) := by
  induction bounds generalizing sums with
  | nil =>
    cases sums with
    | nil => rfl
    | cons => cases same
  | cons bound bounds ih =>
    cases sums with
    | nil => cases same
    | cons n sums =>
      rw [List.zipWith_cons_cons, if_pos (within bound List.mem_cons_self), List.map_cons,
        ih (fun b there => within b (List.mem_cons_of_mem bound there)) (by simpa using same)]

/-- **A duration raises the sums from the first bound on that it does not pass,** when the bounds ascend. -/
theorem runningSums_addToBucket (duration : Number) {bounds ns : List Nat}
    (ascending : bounds.Pairwise fun b c => Number.ofNat b ≤ Number.ofNat c) (same : bounds.length = ns.length)
    (start : Nat) :
    runningSums start (addToBucket duration bounds ns) =
      List.zipWith (fun bound n => if duration ≤ .ofNat bound then n + 1 else n) bounds (runningSums start ns) := by
  induction bounds generalizing ns start with
  | nil =>
    cases ns with
    | nil => rfl
    | cons => cases same
  | cons bound bounds ih =>
    cases ns with
    | nil => cases same
    | cons n ns =>
      rw [List.pairwise_cons] at ascending
      have same' : bounds.length = ns.length := by simpa using same
      rw [addToBucket, runningSums]
      by_cases within : duration ≤ .ofNat bound
      · -- All later bounds are not passed either.
        have later := raise_all (fun b there => Number.le_trans within (ascending.1 b there))
          (same'.trans (length_runningSums (start + n) ns).symm)
        rw [if_pos within, runningSums, List.zipWith_cons_cons, if_pos within, later, ← runningSums_succ]
        rfl
      · rw [if_neg within, runningSums, List.zipWith_cons_cons, if_neg within, ih ascending.2 same']

/-- The bounds of the buckets ascend. -/
theorem durationBounds_ascending : durationBounds.Pairwise fun b c => Number.ofNat b ≤ Number.ofNat c := by
  have whole : durationBounds.Pairwise (· ≤ ·) := by decide
  exact whole.imp Number.ofNat_mono

theorem length_buckets (durations : List Number) :
    (durations.foldl Durations.add {}).buckets.length = durationBounds.length := by
  induction durations using List.reverseRecOn with
  | nil => rfl
  | append_singleton durations duration ih =>
    rw [List.foldl_append]
    exact (length_addToBucket _ _ _).trans ih

/-- **The sum of the buckets up to a bound is the number of durations within it.** -/
theorem runningSums_foldl_add (durations : List Number) :
    runningSums 0 (durations.foldl Durations.add {}).buckets =
      durationBounds.map fun bound => durations.countP (· ≤ .ofNat bound) := by
  induction durations using List.reverseRecOn with
  | nil => rfl
  | append_singleton durations duration ih =>
    have one_more : runningSums 0 ((durations ++ [duration]).foldl Durations.add {}).buckets =
        List.zipWith (fun bound n => if duration ≤ .ofNat bound then n + 1 else n) durationBounds
          (runningSums 0 (durations.foldl Durations.add {}).buckets) := by
      rw [List.foldl_append]
      exact runningSums_addToBucket duration durationBounds_ascending (length_buckets durations).symm 0
    rw [one_more, ih, List.zipWith_map_right, List.zipWith_self]
    refine List.map_congr_left fun bound _ => ?_
    rw [List.countP_append, List.countP_singleton]
    by_cases within : duration ≤ .ofNat bound
    · simp [within]
    · simp [within]

theorem count_foldl_add (durations : List Number) :
    (durations.foldl Durations.add {}).count = durations.length := by
  induction durations using List.reverseRecOn with
  | nil => rfl
  | append_singleton durations duration ih =>
    rw [List.foldl_append, List.length_append, List.length_singleton, ← ih]
    rfl

namespace Exposition

/-- The number of a sample, if it is a whole one. -/
def Sample.number? (s : Sample) : Option Nat :=
  if s.value ≠ "" ∧ s.value.toList.all Char.isDigit then some (Number.digitsValue 10 s.value.toList) else none

theorem number?_toString (name : String) (labels : List (String × String)) (n : Nat) :
    (⟨name, labels, toString n⟩ : Sample).number? = some n := by
  have digits : (toString n).toList.all Char.isDigit = true :=
    List.all_eq_true.2 fun c there => Number.isDigit_of_mem_digitsOf there
  rw [Sample.number?, if_pos ⟨(isNumeral_toString n).1, digits⟩]
  exact congrArg some (Number.digitsValue_digitsOf n)

end Exposition

namespace Metrics

open MetricEvent

/-! ### What a page says of a place -/

/-- The number that a page gives for a name with one label set, if there is one sample of it. -/
def valueOf (samples : List Sample) (name : String) (labels : List (String × String)) : Option Nat :=
  match under samples name labels with
  | [s] => s.number?
  | _ => none

/-- How many durations of a place a page says to be within a bound, which is a text. -/
def bucketOf (samples : List Sample) (method route bound : String) : Option Nat :=
  valueOf samples "http_request_duration_ms_bucket" (place method route ++ [("le", bound)])

/-- How many durations of a place a page says there are. -/
def countOf (samples : List Sample) (method route : String) : Option Nat :=
  valueOf samples "http_request_duration_ms_count" (place method route)

/-- How many requests a page counts at a place, over all statuses. -/
def requestsOf (samples : List Sample) (method route : String) : Nat :=
  ((samples.filter fun s =>
    s.name = Family.requests.name ∧ s.labels.filter (·.1 ≠ "status") = place method route).filterMap Sample.number?).sum

/-- The durations recorded at a place. -/
def durationsAt (events : List MetricEvent) (method route : String) : List Number :=
  ((events.filterMap duration?).filter (·.1 = place method route)).map (·.2)

/-- **What a page says of a place with some durations**: with none there is no sample. -/
structure Agrees (samples : List Sample) (method route : String) (durations : List Number) : Prop where
  /-- Every bucket has the durations within its bound. -/
  bucket : ∀ bound ∈ durationBounds, bucketOf samples method route (toString bound) =
    if durations = [] then none else some (durations.countP (· ≤ .ofNat bound))
  /-- The buckets ascend. -/
  ascending : ∀ b ∈ durationBounds, ∀ c ∈ durationBounds, b ≤ c → ∀ m n,
    bucketOf samples method route (toString b) = some m → bucketOf samples method route (toString c) = some n → m ≤ n
  /-- None has more than the last one. -/
  below : ∀ b ∈ durationBounds, ∀ m n,
    bucketOf samples method route (toString b) = some m → bucketOf samples method route "+Inf" = some n → m ≤ n
  /-- The last one is the count of all durations. -/
  all : bucketOf samples method route "+Inf" = countOf samples method route
  count : countOf samples method route = if durations = [] then none else some durations.length
  /-- That count is the sum of the requests over all statuses. -/
  requests : (countOf samples method route).getD 0 = requestsOf samples method route

/-! ### The samples of a place -/

/-- The samples under a name of the histogram, when only those of one place can have the labels. -/
theorem under_histogram {name : String} {labels ls : List (String × String)} (other : ∀ f : Family, name ≠ f.name)
    (apart : ∀ d ks, ks ≠ ls → under (durationSamples d ks) name labels = []) (m : Metrics) :
    under m.samples name labels =
      m.durations.flatMap fun e =>
        if Labels.read e.1 = ls then under (durationSamples e.2 ls) name labels else [] := by
  have counters : under (Family.all.flatMap fun f => samplesOf f (f.counter m).counts) name labels = [] := by
    rw [under, List.filter_eq_nil_iff]
    intro s there
    obtain ⟨f, -, s_there⟩ := List.mem_flatMap.1 there
    obtain ⟨e, -, rfl⟩ := List.mem_map.1 s_there
    simp [Ne.symm (other f)]
  have split : under m.samples name labels =
      under (Family.all.flatMap fun f => samplesOf f (f.counter m).counts) name labels ++
        under (m.durations.flatMap fun e => durationSamples e.2 (Labels.read e.1)) name labels :=
    List.filter_append _ _
  rw [split, counters, List.nil_append, under, List.filter_flatMap]
  refine List.flatMap_congr fun e _ => ?_
  by_cases own : Labels.read e.1 = ls
  · rw [if_pos own, own]
    rfl
  · rw [if_neg own]
    exact apart e.2 _ own

/-- What a page of plain records says of a place. -/
theorem under_recorded {events : List MetricEvent} (plain : ∀ e ∈ events, e.Plain) {name : String}
    {labels : List (String × String)} (method route : String) (other : ∀ f : Family, name ≠ f.name)
    (apart : ∀ d ks, ks ≠ place method route → under (durationSamples d ks) name labels = []) :
    under (recorded events).samples name labels =
      if durationsAt events method route = [] then []
      else under (durationSamples ((durationsAt events method route).foldl Durations.add {}) (place method route))
        name labels := by
  have places : ∀ r ∈ events.filterMap duration?, r.1 ≠ [] ∧ ∀ l ∈ r.1, Labels.Plain l := by
    intro r there
    obtain ⟨e, e_there, timed⟩ := List.mem_filterMap.1 there
    exact (plain e e_there).place timed
  rw [under_histogram other apart, durations_recorded, Labels.flatMap_gathered places {} (fun d r => d.add r.2)
    (fun d => under (durationSamples d (place method route)) name labels) (place method route),
    durationsAt, List.foldl_map]
  simp only [List.map_eq_nil_iff]

/-- The samples of a place are those of its durations. -/
theorem durationSamples_foldl_add (durations : List Number) (ls : List (String × String)) :
    durationSamples (durations.foldl Durations.add {}) ls =
      (durationBounds.map fun bound => ⟨"http_request_duration_ms_bucket", ls ++ [("le", toString bound)],
        toString (durations.countP (· ≤ .ofNat bound))⟩) ++
      [⟨"http_request_duration_ms_bucket", ls ++ [("le", "+Inf")], toString durations.length⟩,
        ⟨"http_request_duration_ms_count", ls, toString durations.length⟩,
        ⟨"http_request_duration_ms_sum", ls, (durations.foldl Durations.add {}).sum.render⟩] := by
  have pairs : durationBounds.zip (durationBounds.map fun bound => durations.countP (· ≤ .ofNat bound)) =
      durationBounds.map fun bound => (bound, durations.countP (· ≤ .ofNat bound)) := by
    rw [List.zip_eq_zipWith, List.zipWith_map_right, List.zipWith_self]
  rw [durationSamples, runningSums_foldl_add, count_foldl_add, pairs, List.map_map]
  rfl

/-- The bucket without bound is none of those with one. -/
theorem repr_ne_inf (n : Nat) : n.repr ≠ "+Inf" := by
  intro same
  have plus : '+' ∈ Number.digitsOf n := by
    rw [Number.digitsOf, show toString n = "+Inf" from same]
    decide
  exact absurd (Number.isDigit_of_mem_digitsOf plus) (by decide)

theorem filter_durationBounds : ∀ bound ∈ durationBounds, durationBounds.filter (· = bound) = [bound] := by decide

theorem under_bucket (durations : List Number) (ls : List (String × String)) {bound : Nat}
    (there : bound ∈ durationBounds) :
    under (durationSamples (durations.foldl Durations.add {}) ls) "http_request_duration_ms_bucket"
        (ls ++ [("le", toString bound)]) =
      [⟨"http_request_duration_ms_bucket", ls ++ [("le", toString bound)],
        toString (durations.countP (· ≤ .ofNat bound))⟩] := by
  have picked := filter_durationBounds bound there
  rw [durationSamples_foldl_add, under, List.filter_append, List.filter_map]
  simp [Function.comp_def, (repr_ne_inf bound).symm, picked]

theorem under_last (durations : List Number) (ls : List (String × String)) :
    under (durationSamples (durations.foldl Durations.add {}) ls) "http_request_duration_ms_bucket"
        (ls ++ [("le", "+Inf")]) =
      [⟨"http_request_duration_ms_bucket", ls ++ [("le", "+Inf")], toString durations.length⟩] := by
  rw [durationSamples_foldl_add, under, List.filter_append, List.filter_map]
  simp [Function.comp_def, repr_ne_inf]

theorem under_count (durations : List Number) (ls : List (String × String)) :
    under (durationSamples (durations.foldl Durations.add {}) ls) "http_request_duration_ms_count" ls =
      [⟨"http_request_duration_ms_count", ls, toString durations.length⟩] := by
  rw [durationSamples_foldl_add, under, List.filter_append, List.filter_map]
  simp [Function.comp_def]

/-- The bucket of a place has the labels of no other place. -/
theorem under_bucket_other {ls ks : List (String × String)} (other : ks ≠ ls) (d : Durations) (bound : String) :
    under (durationSamples d ks) "http_request_duration_ms_bucket" (ls ++ [("le", bound)]) = [] := by
  rw [under, List.filter_eq_nil_iff]
  intro s there
  simp only [durationSamples, List.mem_append, List.mem_map, List.mem_cons, List.not_mem_nil, or_false] at there
  rcases there with ⟨e, -, rfl⟩ | rfl | rfl | rfl <;> simp [other]

theorem under_count_other {ls ks : List (String × String)} (other : ks ≠ ls) (d : Durations) :
    under (durationSamples d ks) "http_request_duration_ms_count" ls = [] := by
  rw [under, List.filter_eq_nil_iff]
  intro s there
  simp only [durationSamples, List.mem_append, List.mem_map, List.mem_cons, List.not_mem_nil, or_false] at there
  rcases there with ⟨e, -, rfl⟩ | rfl | rfl | rfl <;> simp [other]

variable {events : List MetricEvent}

/-- The counts under the texts that have a property add up to the records that have it. -/
theorem sum_gathered {β : Type} (name : β → String) (p : String → Prop) [DecidablePred p] (xs : List β) :
    (((Table.gathered name 0 (fun n _ => n + 1) xs).filter (p ·.1)).map (·.2)).sum = xs.countP (p <| name ·) := by
  have number : ∀ text, (xs.filter (name · = text)).foldl (fun n _ => n + 1) 0 = (xs.map name).count text := by
    intro text
    rw [List.foldl_const, List.count, List.countP_map, List.countP_eq_length_filter]
    simp [Function.comp_def, Bool.beq_eq_decide_eq]
  have same_texts : (Text.distinct (xs.map name)).Perm (xs.map name).dedup :=
    (List.perm_ext_iff_of_nodup (Text.nodup_distinct _) (List.nodup_dedup _)).2 fun text => by simp
  calc (((Table.gathered name 0 (fun n _ => n + 1) xs).filter (p ·.1)).map (·.2)).sum
    _ = (((Text.distinct (xs.map name)).filter p).map fun text => (xs.map name).count text).sum := by
      rw [Table.gathered, List.filter_map, List.map_map]
      simp only [Function.comp_def, number]
    _ = (((xs.map name).dedup.filter p).map fun text => (xs.map name).count text).sum :=
      ((same_texts.filter _).map _).sum_eq
    _ = (xs.map name).countP p := List.sum_map_count_dedup_filter_eq_countP p (xs.map name)
    _ = xs.countP (p <| name ·) := List.countP_map

/-- A request counts at the place where its duration is kept. -/
theorem countP_requests (events : List MetricEvent) (method route : String) :
    ((events.filter (·.family = .requests)).countP fun e =>
      e.labels.filter (·.1 ≠ "status") = place method route) = (durationsAt events method route).length := by
  rw [durationsAt, List.length_map, ← List.countP_eq_length_filter]
  induction events with
  | nil => rfl
  | cons e events ih =>
    cases e with
    | request method' route' status duration =>
      rw [List.filter_cons_of_pos (by rfl), List.filterMap_cons_some (by rfl), List.countP_cons, List.countP_cons, ih]
      rfl
    | _ => exact ih

/-- The requests that a page counts at a place are the durations recorded there. -/
theorem requestsOf_recorded (plain : ∀ e ∈ events, e.Plain) (method route : String) :
    requestsOf (recorded events).samples method route = (durationsAt events method route).length := by
  let here : List (String × String) → Prop := fun ls => ls.filter (·.1 ≠ "status") = place method route
  have numbers : ∀ counts : Table Nat,
      ((samplesOf .requests counts).filter fun s => here s.labels).filterMap Sample.number? =
        (counts.filter fun e => here (Labels.read e.1)).map (·.2) := by
    intro counts
    rw [samplesOf, List.filter_map, List.filterMap_map, ← List.filterMap_eq_map]
    exact List.filterMap_congr fun e _ => number?_toString _ _ _
  have kept : ∀ e ∈ events.filter (·.family = .requests), Labels.read (Labels.joined e.labels) = e.labels :=
    fun e there => Labels.read_joined e.labels_ne_nil (plain e (List.mem_of_mem_filter there)).labels
  rw [requestsOf, filter_samples _ .requests here, numbers, counts_recorded, sum_gathered _ (fun t => here (Labels.read t)),
    ← countP_requests]
  refine List.countP_congr fun e there => ?_
  rw [kept e there]

/-- A sample that is alone under its labels gives its number. -/
theorem valueOf_eq {samples : List Sample} {name : String} {labels : List (String × String)} {durations : List Number}
    {n : Nat} (alone : under samples name labels = if durations = [] then [] else [⟨name, labels, toString n⟩]) :
    valueOf samples name labels = if durations = [] then none else some n := by
  rw [valueOf, alone]
  by_cases none_there : durations = []
  · rw [if_pos none_there, if_pos none_there]
  · rw [if_neg none_there, if_neg none_there]
    exact number?_toString name labels n

/-- **The histogram of plain records agrees with their counter.** -/
theorem histogram_agrees (plain : ∀ e ∈ events, e.Plain) :
    ∃ samples, readPage? (recorded events).render = some samples ∧
      ∀ method route, Agrees samples method route (durationsAt events method route) := by
  refine ⟨(recorded events).samples, readPage?_recorded plain, fun method route => ?_⟩
  have bucket : ∀ bound ∈ durationBounds, bucketOf (recorded events).samples method route (toString bound) =
      if durationsAt events method route = [] then none
      else some ((durationsAt events method route).countP (· ≤ .ofNat bound)) := by
    intro bound there
    refine valueOf_eq ?_
    rw [under_recorded plain method route (by intro f; cases f <;> decide)
      fun d ks other => under_bucket_other other d _, under_bucket _ _ there]
  have last : bucketOf (recorded events).samples method route "+Inf" =
      if durationsAt events method route = [] then none else some (durationsAt events method route).length := by
    refine valueOf_eq ?_
    rw [under_recorded plain method route (by intro f; cases f <;> decide)
      fun d ks other => under_bucket_other other d _, under_last]
  have count : countOf (recorded events).samples method route =
      if durationsAt events method route = [] then none else some (durationsAt events method route).length := by
    refine valueOf_eq ?_
    rw [under_recorded plain method route (by intro f; cases f <;> decide)
      fun d ks other => under_count_other other d, under_count]
  have shown : ∀ {x n : Nat},
      (if durationsAt events method route = [] then none else some x) = some n → x = n := by
    intro x n given
    split at given
    · cases given
    · exact Option.some.inj given
  refine ⟨bucket, ?_, ?_, last.trans count.symm, count, ?_⟩
  · intro b b_there c c_there le m n of_b of_c
    rw [bucket b b_there] at of_b
    rw [bucket c c_there] at of_c
    rw [← shown of_b, ← shown of_c]
    refine List.countP_mono_left fun duration _ within => ?_
    rw [decide_eq_true_eq] at within ⊢
    exact Number.le_trans within (Number.ofNat_mono le)
  · intro b b_there m n of_b of_last
    rw [bucket b b_there] at of_b
    rw [last] at of_last
    rw [← shown of_b, ← shown of_last]
    exact List.countP_le_length
  · rw [count, requestsOf_recorded plain]
    split
    · rename_i none_there
      rw [none_there]
      rfl
    · rfl

/-- A route under two statuses, with a duration on a bound and one above the last. -/
def bothStatuses : List MetricEvent :=
  [.request "GET" "/api/products" (.ofNat 200) (.ofNat 5), .request "GET" "/api/products" (.ofNat 401) (.ofNat 6),
    .request "POST" "/api/orders" (.ofNat 201) (.ofNat 40), .request "GET" "/api/products" (.ofNat 200) (.ofNat 6000)]

theorem histogram_agrees_under_two_statuses :
    (∀ e ∈ bothStatuses, e.Plain) ∧
      ∃ samples, readPage? (recorded bothStatuses).render = some samples ∧
        ∀ method route, Agrees samples method route (durationsAt bothStatuses method route) :=
  ⟨by decide +kernel, histogram_agrees (by decide +kernel)⟩

end Metrics

end BearerGate
