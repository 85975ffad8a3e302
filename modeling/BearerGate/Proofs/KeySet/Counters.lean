import BearerGate.Deployment
import BearerGate.Proofs.KeySet.Reply
import BearerGate.Proofs.Metrics.Recording

/-!
# The counters of the cache

The cache counts hits, misses, fetches and failures, and it has every fetch that has ended counted once more, with its
result, among the metrics of the process.  The numbers are raised at five places, so what holds them together is an
invariant of whole histories (`balanced`): every fetch that was counted has failed, or has replaced a set, or is still
out.  Fetches that are out are kept here as a list of issuers, `outstanding`; no issuer is on it twice, since a fetch
that is under way is joined.

A search that joins a fetch is a miss like any other, and no fetch.  So there are at most as many fetches as misses and
calls for a refresh together.
-/

namespace BearerGate

namespace KeyCache

/-! ### What there is to count -/

/-- A search for a key of an issuer that is registered. -/
def Moment.isSearch (s : Settings) (m : Moment) : Bool :=
  match m.event with
  | .call _ (.key issuer _) => (s.address? issuer).isSome
  | _ => false

/-- A call for a refresh of an issuer that is registered. -/
def Moment.isRefresh (s : Settings) (m : Moment) : Bool :=
  match m.event with
  | .call _ (.refresh issuer) => (s.address? issuer).isSome
  | _ => false

/-- **How often a set was replaced.** -/
def replacements (s : Settings) : History → Nat
  | [] => 0
  | m :: h => replacements s h + (brought? s m.event.issuer h m).toList.length

/-- The result of a fetch that an effect counts. -/
def Effect.counted? : Effect → Option FetchResult
  | count r => some r
  | _ => none

/-- **The results of fetches that were counted,** the latest last. -/
def results (s : Settings) : History → List FetchResult
  | [] => []
  | m :: h => results s h ++ (effectsAt s h m).filterMap Effect.counted?

/-- **The issuers to whom a request is out.** -/
def outstanding (s : Settings) : History → List String
  | [] => []
  | ⟨now, .call caller c⟩ :: h =>
    if sendsTo c.issuer (effectsAt s h ⟨now, .call caller c⟩) then c.issuer :: outstanding s h else outstanding s h
  | ⟨_, .fetchEnd name _⟩ :: h => (outstanding s h).erase name

/-! ### Requests that are out -/

variable (s : Settings)

/-- A request goes out only to an issuer to whom none is out. -/
theorem not_isOut_of_sendsTo {h : History} {now : Number} {caller : Nat} {c : Call}
    (sends : sendsTo c.issuer (effectsAt s h ⟨now, .call caller c⟩) = true) : isOut s c.issuer h = false := by
  rw [isOut_eq, knownAfter, IssuerState.isSent]
  rcases settled_or_waits s h now caller c with settled | waits
  · have silent := settled.requests
    rw [sendsTo, List.any_eq_true] at sends
    obtain ⟨e, member, is_send⟩ := sends
    rw [List.filterMap_eq_nil_iff.1 silent e member] at is_send
    cases is_send
  · obtain ⟨st₀, address, same, -, -, loads⟩ := waits.loads
    rw [← same]
    generalize stateAfter s (⟨now, .call caller c⟩ :: h) = st' at loads
    generalize effectsAt s h ⟨now, .call caller c⟩ = effects at sends loads
    cases loads with
    | joins under_way => cases sends
    | sends idle can =>
      rw [idle]
      rfl
    | fails idle cannot => cases sends

/-- **The list of outstanding requests** has those issuers on it to whom one is out, each once. -/
theorem outstanding_spec (h : History) :
    (outstanding s h).Nodup ∧ ∀ issuer, issuer ∈ outstanding s h ↔ isOut s issuer h = true := by
  induction h with
  | nil => exact ⟨List.nodup_nil, fun issuer => by simp [outstanding, isOut]⟩
  | cons m h ih =>
    obtain ⟨distinct, out⟩ := ih
    obtain ⟨now, event⟩ := m
    cases event with
    | call caller c =>
      have others : ∀ issuer, issuer ≠ c.issuer → sendsTo issuer (effectsAt s h ⟨now, .call caller c⟩) = false := by
        intro issuer other
        refine sendsTo_eq_false fun name target member => ?_
        obtain ⟨-, caller', c', same, about⟩ := registered_of_send s h _ member
        cases same
        exact fun same => other (same.symm.trans about.symm)
      rw [outstanding]
      split
      · rename_i sends
        refine ⟨List.nodup_cons.2 ⟨fun there => ?_, distinct⟩, fun issuer => ?_⟩
        · rw [out, not_isOut_of_sendsTo s sends] at there
          cases there
        · rw [List.mem_cons, out, isOut, Bool.or_eq_true]
          by_cases about : issuer = c.issuer
          · subst about
            simp [sends]
          · simp [about, others issuer about]
      · rename_i silent
        refine ⟨distinct, fun issuer => ?_⟩
        rw [out, isOut, Bool.or_eq_true]
        by_cases about : issuer = c.issuer
        · subst about
          simp [silent]
        · simp [others issuer about]
    | fetchEnd name outcome =>
      refine ⟨distinct.erase name, fun issuer => ?_⟩
      rw [outstanding, distinct.mem_erase_iff, out, isOut]
      by_cases ended : name = issuer
      · simp [ended]
      · simp [ended, Ne.symm ended]

/-! ### What one moment adds to the counters -/

/-- **What a moment adds to the counters.** -/
structure Adds (h : History) (m : Moment) : Prop where
  /-- Every search for a key of a registered issuer is a hit or a miss. -/
  lookups : (stateAfter s (m :: h)).stats.hits + (stateAfter s (m :: h)).stats.misses =
    (stateAfter s h).stats.hits + (stateAfter s h).stats.misses + (m.isSearch s).toNat
  /-- A fetch begins only for a miss or for a refresh. -/
  fetches : (stateAfter s (m :: h)).stats.fetches + (stateAfter s h).stats.misses ≤
    (stateAfter s h).stats.fetches + (stateAfter s (m :: h)).stats.misses + (m.isRefresh s).toNat
  /-- A fetch that has begun is out; one that is out fails, or replaces a set. -/
  balance : (stateAfter s (m :: h)).stats.fetches + (stateAfter s h).stats.failures + (outstanding s h).length =
    (stateAfter s h).stats.fetches + (stateAfter s (m :: h)).stats.failures +
      (brought? s m.event.issuer h m).toList.length + (outstanding s (m :: h)).length
  /-- What replaces a set is counted as such, and nothing else is. -/
  ok : ((effectsAt s h m).filterMap Effect.counted?).count .ok = (brought? s m.event.issuer h m).toList.length
  /-- What fails is counted as one failure or the other. -/
  failures : (stateAfter s (m :: h)).stats.failures = (stateAfter s h).stats.failures +
    (((effectsAt s h m).filterMap Effect.counted?).count .error +
      ((effectsAt s h m).filterMap Effect.counted?).count .invalid)

/-! ### Calls -/

section Call

variable {s} {now : Number} {st : State} {issuer address : String} {w : Waiter} {result : State × List Effect}

/-- **What it costs to come to wait:** nothing if there is a fetch to join.  Otherwise a fetch is counted, and either a
request goes out or the failure is counted too. -/
structure Loads.Costs (st : State) (issuer : String) (result : State × List Effect) : Prop where
  hits : result.1.stats.hits = st.stats.hits
  misses : result.1.stats.misses = st.stats.misses
  fetches : result.1.stats.fetches = st.stats.fetches + (sendsTo issuer result.2).toNat +
    (result.2.filterMap Effect.counted?).length
  once : (sendsTo issuer result.2).toNat + (result.2.filterMap Effect.counted?).length ≤ 1
  failures : result.1.stats.failures = st.stats.failures + (result.2.filterMap Effect.counted?).length
  errors : ∀ r ∈ result.2.filterMap Effect.counted?, r = .error

theorem Loads.costs (loads : Loads s now st issuer address w result) : Loads.Costs st issuer result := by
  cases loads with
  | joins under_way => exact ⟨rfl, rfl, rfl, Nat.zero_le 1, rfl, by simp⟩
  | sends idle can =>
    have sends : sendsTo issuer [.send issuer address] = true := by simp [sendsTo, Effect.sent?]
    refine ⟨rfl, rfl, ?_, ?_, rfl, ?_⟩
    · rw [sends]
      rfl
    · rw [sends]
      exact Nat.le_refl 1
    · intro r member
      cases member
  | fails idle cannot => exact ⟨rfl, rfl, rfl, Nat.le_refl 1, rfl, fun r member => List.mem_singleton.1 member⟩

/-- **What a call costs:** a search is a hit or a miss, and whatever a miss or a refresh costs by coming to wait. -/
structure Call.Costs (s : Settings) (st : State) (m : Moment) (st' : State) (effects : List Effect) : Prop where
  lookups : st'.stats.hits + st'.stats.misses = st.stats.hits + st.stats.misses + (m.isSearch s).toNat
  fetches : st'.stats.fetches = st.stats.fetches + (sendsTo m.event.issuer effects).toNat +
    (effects.filterMap Effect.counted?).length
  paid : (sendsTo m.event.issuer effects).toNat + (effects.filterMap Effect.counted?).length + st.stats.misses ≤
    st'.stats.misses + (m.isRefresh s).toNat
  failures : st'.stats.failures = st.stats.failures + (effects.filterMap Effect.counted?).length
  errors : ∀ r ∈ effects.filterMap Effect.counted?, r = .error

/-- An answer at once costs nothing beyond the hit or the miss. -/
private theorem costs_of_answered {m : Moment} (silent : sendsTo m.event.issuer result.2 = false)
    (uncounted : result.2.filterMap Effect.counted? = [])
    (lookups : result.1.stats.hits + result.1.stats.misses = st.stats.hits + st.stats.misses + (m.isSearch s).toNat)
    (misses : st.stats.misses ≤ result.1.stats.misses) (fetches : result.1.stats.fetches = st.stats.fetches)
    (failures : result.1.stats.failures = st.stats.failures) : Call.Costs s st m result.1 result.2 := by
  refine ⟨lookups, ?_, ?_, ?_, ?_⟩
  · rw [silent, uncounted]
    exact fetches
  · rw [silent, uncounted, Bool.toNat_false, List.length_nil]
    omega
  · rw [uncounted]
    exact failures
  · rw [uncounted]
    exact fun r member => absurd member List.not_mem_nil

theorem Begins.costs {caller : Nat} {c : Call} (begins : Begins s now st caller c result) :
    Call.Costs s st ⟨now, .call caller c⟩ result.1 result.2 := by
  cases begins with
  | stranger absent =>
    refine costs_of_answered rfl rfl ?_ (Nat.le_refl _) rfl rfl
    simp only [Moment.isSearch, absent, Option.isSome_none, Bool.toNat_false, Nat.add_zero]
  | strangerRefresh absent => exact costs_of_answered rfl rfl rfl (Nat.le_refl _) rfl rfl
  | hit there young held =>
    refine costs_of_answered rfl rfl ?_ (Nat.le_refl _) rfl rfl
    simp only [Moment.isSearch, there, Option.isSome_some, Bool.toNat_true, State.countHit]
    omega
  | cooling there young missing idle cooldown =>
    refine costs_of_answered rfl rfl ?_ (Nat.le_succ _) rfl rfl
    simp only [Moment.isSearch, there, Option.isSome_some, Bool.toNat_true, State.countMiss]
    omega
  | searches there miss free loads =>
    obtain ⟨hits, misses, fetches, once, failures, errors⟩ := loads.costs
    refine ⟨?_, fetches, ?_, failures, errors⟩
    · simp only [Moment.isSearch, there, Option.isSome_some, Bool.toNat_true, hits, misses, State.countMiss]
      omega
    · -- the miss that was counted before pays for the fetch
      simp only [misses, State.countMiss, Event.issuer, Call.issuer]
      omega
  | refreshes there loads =>
    obtain ⟨hits, misses, fetches, once, failures, errors⟩ := loads.costs
    refine ⟨?_, fetches, ?_, failures, errors⟩
    · simp only [Moment.isSearch, hits, misses, Bool.toNat_false, Nat.add_zero]
    · simp only [Moment.isRefresh, there, Option.isSome_some, Bool.toNat_true, misses, Event.issuer, Call.issuer]
      omega

end Call

/-- **What a call adds to the counters.** -/
theorem adds_call (h : History) (now : Number) (caller : Nat) (c : Call) : Adds s h ⟨now, .call caller c⟩ := by
  have costs : Call.Costs s (stateAfter s h) ⟨now, .call caller c⟩ (stateAfter s (⟨now, .call caller c⟩ :: h))
    (effectsAt s h ⟨now, .call caller c⟩) := (begins_call s h now caller c).costs
  have out : (outstanding s (⟨now, .call caller c⟩ :: h)).length =
      (outstanding s h).length + (sendsTo c.issuer (effectsAt s h ⟨now, .call caller c⟩)).toNat := by
    rw [outstanding]
    cases sendsTo c.issuer (effectsAt s h ⟨now, .call caller c⟩) <;> rfl
  have brings : (brought? s c.issuer h ⟨now, .call caller c⟩).toList.length = 0 := rfl
  obtain ⟨lookups, fetches, paid, failures, errors⟩ := costs
  simp only [Event.issuer] at fetches paid
  have count_error := List.count_eq_length.2 fun r there => (errors r there).symm
  have count_other : ∀ r : FetchResult, r ≠ .error →
      ((effectsAt s h ⟨now, .call caller c⟩).filterMap Effect.counted?).count r = 0 :=
    fun r other => List.count_eq_zero.2 fun there => other (errors r there)
  refine ⟨lookups, by omega, ?_, ?_, ?_⟩
  · rw [Event.issuer, out, brings]
    omega
  · rw [Event.issuer, count_other .ok (by decide), brings]
  · rw [failures, count_error, count_other .invalid (by decide), Nat.add_zero]

/-! ### Ends of fetches -/

/-- **How the end of a fetch is counted:** a failure that came before the request went out has been counted already. -/
inductive Closes (st : State) (flight : Flight) (outcome : FetchOutcome) : Stats → List FetchResult → Prop
  | doomed (doomed : flight.doomed = true) : Closes st flight outcome st.stats []
  | brings {keys : List KeyEntry} (sent : flight.doomed = false)
      (published : outcome.published? s.importKey = some keys) : Closes st flight outcome st.stats [.ok]
  | fails {r : FetchResult} (sent : flight.doomed = false) (nothing : outcome.published? s.importKey = none)
      (bad : r ≠ .ok) : Closes st flight outcome st.countFailure.stats [r]

/-- Answers are not counted. -/
theorem counted_answerWaiter (issuer : String) (result : Except Rejection KeySet) (w : Waiter) :
    (answerWaiter issuer result w).filterMap Effect.counted? = [] := by
  obtain ⟨caller, want⟩ := w
  cases result with
  | ok set => cases want <;> rfl
  | error cause =>
    cases want with
    | key keyId fallback => cases fallback <;> rfl
    | count => rfl

theorem closes_settle (now : Number) (st : State) (issuer : String) {flight : Flight} (outcome : FetchOutcome)
    (under_way : (st.issuer issuer).flight = some flight) :
    Closes s st flight outcome (settle s now st issuer outcome).1.stats
      ((settle s now st issuer outcome).2.filterMap (·.effect.counted?)) := by
  have effects : (settle s now st issuer outcome).2.filterMap (·.effect.counted?) =
      (conclude s now st issuer flight outcome).effects.filterMap (·.effect.counted?) := by
    simp only [settle, under_way, List.filterMap_append, List.filterMap_map, Function.comp_def, List.filterMap_flatMap,
      counted_answerWaiter]
    rw [List.flatMap_eq_nil_iff.2 fun _ _ => rfl, List.append_nil]
  have state : (settle s now st issuer outcome).1 = (conclude s now st issuer flight outcome).state := by
    simp only [settle, under_way]
  rw [effects, state]
  by_cases doomed : flight.doomed = true
  · simp only [conclude, if_pos doomed]
    exact .doomed doomed
  · have sent : flight.doomed = false := Bool.eq_false_iff.2 doomed
    simp only [conclude, if_neg doomed]
    cases outcome with
    | failed => exact .fails sent rfl (by decide)
    | document d =>
      cases read : keyRecords d with
      | error faults =>
        simp only [read]
        exact .fails sent (by simp only [FetchOutcome.published?, publishedKeys?, read]) (by decide)
      | ok records =>
        have published : (FetchOutcome.document d).published? s.importKey = some (usableKeys s.importKey records) := by
          simp only [FetchOutcome.published?, publishedKeys?, read]
        -- what is logged about single keys is not counted
        have logs : (collectKeys s.importKey issuer records).log.filterMap
            ((fun e : TimedEffect => e.effect.counted?) ∘ fun e => ⟨e.1, .log e.2⟩) = [] :=
          List.filterMap_eq_nil_iff.2 fun _ _ => rfl
        simp only [read, List.filterMap_append, List.filterMap_map, logs, List.nil_append]
        exact .brings sent published

/-- The list of outstanding requests is shorter by one after the end of a fetch that was sent, and otherwise as it was. -/
theorem length_outstanding_fetchEnd (h : History) (now : Number) (issuer : String) (outcome : FetchOutcome) :
    (outstanding s h).length =
      (outstanding s (⟨now, .fetchEnd issuer outcome⟩ :: h)).length + (isOut s issuer h).toNat := by
  obtain ⟨-, out⟩ := outstanding_spec s h
  rw [outstanding]
  cases sent : isOut s issuer h with
  | true =>
    have there : issuer ∈ outstanding s h := (out issuer).2 sent
    have positive := List.length_pos_of_mem there
    rw [List.length_erase_of_mem there, Bool.toNat_true]
    omega
  | false =>
    have absent : issuer ∉ outstanding s h := fun there => Bool.false_ne_true (sent.symm.trans ((out issuer).1 there))
    rw [List.erase_of_not_mem absent]
    rfl

/-- **What the end of a fetch costs:** a request that was out has failed or has replaced a set. -/
structure EndCosts (stats : Stats) (sent replaced : Nat) (stats' : Stats) (results : List FetchResult) : Prop where
  hits : stats'.hits = stats.hits
  misses : stats'.misses = stats.misses
  fetches : stats'.fetches = stats.fetches
  settled : stats.failures + sent = stats'.failures + replaced
  ok : results.count .ok = replaced
  failures : stats'.failures = stats.failures + (results.count .error + results.count .invalid)

theorem endCosts (h : History) (now : Number) (issuer : String) (outcome : FetchOutcome) :
    EndCosts (stateAfter s h).stats (isOut s issuer h).toNat
      (brought? s issuer h ⟨now, .fetchEnd issuer outcome⟩).toList.length
      (stateAfter s (⟨now, .fetchEnd issuer outcome⟩ :: h)).stats
      ((effectsAt s h ⟨now, .fetchEnd issuer outcome⟩).filterMap Effect.counted?) := by
  have effects : (effectsAt s h ⟨now, .fetchEnd issuer outcome⟩).filterMap Effect.counted? =
      (settle s now (stateAfter s h) issuer outcome).2.filterMap (·.effect.counted?) := by
    rw [effectsAt, occur, List.filterMap_map]
    rfl
  have state : (stateAfter s (⟨now, .fetchEnd issuer outcome⟩ :: h)).stats =
    (settle s now (stateAfter s h) issuer outcome).1.stats := rfl
  rw [effects, state, isOut_eq, IssuerState.isSent]
  cases under_way : (knownAfter s h issuer).flight with
  | none =>
    have still : settle s now (stateAfter s h) issuer outcome = (stateAfter s h, []) :=
      (ends_settle s now (stateAfter s h) issuer outcome).eq_of_idle under_way
    rw [brought?_of_idle s under_way, still]
    exact ⟨rfl, rfl, rfl, rfl, rfl, rfl⟩
  | some flight =>
    rw [brought?_of_flight s under_way, Option.any_some]
    have closes := closes_settle s now (stateAfter s h) issuer outcome under_way
    generalize (settle s now (stateAfter s h) issuer outcome).1.stats = stats' at closes ⊢
    generalize (settle s now (stateAfter s h) issuer outcome).2.filterMap (·.effect.counted?) = results at closes ⊢
    cases closes with
    | doomed doomed =>
      rw [doomed]
      exact ⟨rfl, rfl, rfl, rfl, rfl, rfl⟩
    | brings sent published =>
      rw [sent, published]
      exact ⟨rfl, rfl, rfl, rfl, rfl, rfl⟩
    | @fails r sent nothing bad =>
      rw [sent, nothing]
      cases r with
      | ok => exact absurd rfl bad
      | error => exact ⟨rfl, rfl, rfl, rfl, rfl, rfl⟩
      | invalid => exact ⟨rfl, rfl, rfl, rfl, rfl, rfl⟩

/-- **What the end of a fetch adds to the counters.** -/
theorem adds_fetchEnd (h : History) (now : Number) (issuer : String) (outcome : FetchOutcome) :
    Adds s h ⟨now, .fetchEnd issuer outcome⟩ := by
  obtain ⟨hits, misses, fetches, settled, ok, failures⟩ := endCosts s h now issuer outcome
  have out := length_outstanding_fetchEnd s h now issuer outcome
  refine ⟨?_, ?_, ?_, ok, failures⟩
  · rw [hits, misses]
    rfl
  · rw [misses, fetches]
    exact Nat.le_refl _
  · rw [fetches, Event.issuer]
    omega

/-! ### Whole histories -/

/-- **What one moment adds to the counters.** -/
theorem adds (h : History) (m : Moment) : Adds s h m := by
  obtain ⟨now, event⟩ := m
  cases event with
  | call caller c => exact adds_call s h now caller c
  | fetchEnd issuer outcome => exact adds_fetchEnd s h now issuer outcome

/-- **The balance of a history.** -/
structure Balanced (h : History) : Prop where
  lookups : (stateAfter s h).stats.hits + (stateAfter s h).stats.misses = h.countP (Moment.isSearch s)
  fetches_le : (stateAfter s h).stats.fetches ≤ (stateAfter s h).stats.misses + h.countP (Moment.isRefresh s)
  fetches : (stateAfter s h).stats.fetches =
    (stateAfter s h).stats.failures + replacements s h + (outstanding s h).length
  ok : (results s h).count .ok = replacements s h
  failures : (results s h).count .error + (results s h).count .invalid = (stateAfter s h).stats.failures

/-- **Every history is balanced.** -/
theorem balanced (h : History) : Balanced s h := by
  induction h with
  | nil => exact ⟨rfl, Nat.le_refl 0, rfl, rfl, rfl⟩
  | cons m h ih =>
    obtain ⟨lookups, fetches_le, fetches, ok, failures⟩ := ih
    obtain ⟨lookups', fetches', balance', ok', failures'⟩ := adds s h m
    have searches : (m :: h).countP (Moment.isSearch s) = h.countP (Moment.isSearch s) + (m.isSearch s).toNat := by
      rw [List.countP_cons]
      cases m.isSearch s <;> rfl
    have refreshes : (m :: h).countP (Moment.isRefresh s) = h.countP (Moment.isRefresh s) + (m.isRefresh s).toNat := by
      rw [List.countP_cons]
      cases m.isRefresh s <;> rfl
    refine ⟨by omega, by omega, ?_, ?_, ?_⟩
    · rw [replacements]
      omega
    · rw [results, replacements, List.count_append, ok, ok']
    · rw [results, List.count_append, List.count_append]
      omega

/-! ### What the numbers tell -/

/-- The records of the metrics that a history makes. -/
def fetchRecords (h : History) : List MetricEvent :=
  (results s h).map fun r => .keySetFetch (Deployment.fetchResultName r)

/-- What a process counts, after some records, as fetches with a result. -/
def fetchCount (events : List MetricEvent) (r : FetchResult) : Nat :=
  (Metrics.recorded events).keySetFetches.get (Labels.key [("result", some (Deployment.fetchResultName r))])

/-- **The metrics count what the cache has counted,** if it is the only one in its process. -/
theorem fetchCount_eq {h : History} {events : List MetricEvent}
    (own : (events.filter (·.family = .fetches)).Perm (fetchRecords s h)) (r : FetchResult) :
    fetchCount events r = (results s h).count r := by
  have key : Labels.key [("result", some (Deployment.fetchResultName r))] =
      Labels.joined (MetricEvent.keySetFetch (Deployment.fetchResultName r)).labels :=
    Metrics.key_given (.keySetFetch (Deployment.fetchResultName r))
  have counter : (Metrics.recorded events).keySetFetches = Family.fetches.counter (Metrics.recorded events) := rfl
  have in_family : events.countP (Metrics.CountedUnder .fetches (Labels.joined
      (MetricEvent.keySetFetch (Deployment.fetchResultName r)).labels)) =
      (events.filter (·.family = .fetches)).countP (Metrics.CountedUnder .fetches (Labels.joined
        (MetricEvent.keySetFetch (Deployment.fetchResultName r)).labels)) := by
    rw [List.countP_filter]
    refine List.countP_congr fun e _ => ?_
    rw [Bool.and_eq_true, decide_eq_true_iff, decide_eq_true_iff]
    exact ⟨fun counted => ⟨counted, counted.1.symm⟩, And.left⟩
  rw [fetchCount, key, counter, Metrics.get_recorded, in_family, own.countP_eq, fetchRecords, List.countP_map, List.count]
  refine List.countP_congr fun r' _ => ?_
  simp only [Function.comp_apply, Metrics.CountedUnder, MetricEvent.family, true_and, decide_eq_true_eq, beq_iff_eq]
  -- the three results have three names
  cases r <;> cases r' <;> decide

/-- Nothing is counted with a result at a moment that is about a stranger. -/
theorem uncounted_of_stranger {h : History} {m : Moment} (absent : s.address? m.event.issuer = none) :
    (effectsAt s h m).filterMap Effect.counted? = [] := by
  have same := (stateAfter_of_stranger s (h := h) absent).1
  obtain ⟨-, -, -, ok, failures⟩ := adds s h m
  have nothing : brought? s m.event.issuer h m = none := by
    obtain ⟨now, event⟩ := m
    cases event with
    | call caller c => rfl
    | fetchEnd issuer outcome =>
      have idle := congrArg IssuerState.flight (knownAfter_of_stranger s absent h)
      exact brought?_of_idle s idle now outcome
  rw [nothing] at ok
  rw [same] at failures
  refine List.eq_nil_iff_forall_not_mem.2 fun r there => ?_
  have positive := List.count_pos_iff.2 there
  cases r with
  | ok => exact absurd (ok ▸ positive) (by decide)
  | error => omega
  | invalid => omega

/-- **What the counters tell** after a history. -/
structure Accounted (h : History) : Prop where
  lookups : (stateAfter s h).stats.hits + (stateAfter s h).stats.misses = h.countP (Moment.isSearch s)
  failures_le : (stateAfter s h).stats.failures ≤ (stateAfter s h).stats.fetches
  fetches_le : (stateAfter s h).stats.fetches ≤ (stateAfter s h).stats.misses + h.countP (Moment.isRefresh s)
  /-- While no request is out, every fetch has failed or has replaced a set, -/
  replaced : (∀ issuer, isOut s issuer h = false) →
    (stateAfter s h).stats.fetches - (stateAfter s h).stats.failures = replacements s h
  /-- and the metrics of a process without another cache tell the same. -/
  shown : (∀ issuer, isOut s issuer h = false) → ∀ events : List MetricEvent,
    (events.filter (·.family = .fetches)).Perm (fetchRecords s h) →
    fetchCount events .ok = (stateAfter s h).stats.fetches - (stateAfter s h).stats.failures ∧
      fetchCount events .error + fetchCount events .invalid = (stateAfter s h).stats.failures
  /-- Calls about issuers that are not registered count nothing, -/
  strangers : ∀ m : Moment, s.address? m.event.issuer = none →
    (stateAfter s (m :: h)).stats = (stateAfter s h).stats ∧ results s (m :: h) = results s h
  /-- and neither do looks at what is held and at the counters themselves. -/
  looks : ∀ serve name (d : Deployment),
    (Deployment.answer serve name .heldKeys d).2 = d ∧ (Deployment.answer serve name .keyStats d).2 = d

/-- **The counters of the cache agree,** with what was asked of it, with what has become of its sets, and with the
metrics. -/
theorem counters_agree (h : History) : Accounted s h := by
  obtain ⟨lookups, fetches_le, fetches, ok, failures⟩ := balanced s h
  have none_out : (∀ issuer, isOut s issuer h = false) → (outstanding s h).length = 0 := by
    intro silent
    rw [List.length_eq_zero_iff, List.eq_nil_iff_forall_not_mem]
    intro issuer there
    rw [(outstanding_spec s h).2, silent issuer] at there
    cases there
  refine ⟨lookups, by omega, fetches_le, ?_, ?_, ?_, fun serve name d => ⟨rfl, rfl⟩⟩
  · intro silent
    have := none_out silent
    omega
  · intro silent events own
    have := none_out silent
    rw [fetchCount_eq s own, fetchCount_eq s own, fetchCount_eq s own]
    omega
  · intro m absent
    have same := (stateAfter_of_stranger s (h := h) absent).1
    refine ⟨congrArg State.stats same, ?_⟩
    rw [results, uncounted_of_stranger s absent, List.append_nil]

end KeyCache

end BearerGate
