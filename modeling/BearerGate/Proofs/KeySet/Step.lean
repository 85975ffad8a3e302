import BearerGate.Proofs.KeySet.Collection

/-!
# The steps of the cache

Everything that one event can do to the cache, said once.  `Begins` lists the ways in which a call begins
and `Loads` the ways in which it comes to wait for a fetch; the end of a fetch either brings the keys that
its document publishes (`conclude_of_published`) or changes nothing about the set that is held
(`conclude_of_not_published`), and answers everyone who waited (`answer_mem_settle`).
-/

namespace BearerGate

namespace KeyCache

/-! ### What is known about an issuer -/

namespace State

@[simp]
theorem issuer_setIssuer_self (st : State) (name : String) (known : IssuerState) :
    (st.setIssuer name known).issuer name = known := by
  rw [issuer, setIssuer, Table.get?_put_self]
  rfl

theorem issuer_setIssuer_of_ne (st : State) {name other : String} (known : IssuerState)
    (ne : other ≠ name) : (st.setIssuer name known).issuer other = st.issuer other := by
  rw [issuer, setIssuer, Table.get?_put_of_ne _ _ ne]
  rfl

@[simp]
theorem issuer_countHit (st : State) (name : String) : st.countHit.issuer name = st.issuer name := rfl

@[simp]
theorem issuer_countMiss (st : State) (name : String) : st.countMiss.issuer name = st.issuer name := rfl

@[simp]
theorem issuer_countFetch (st : State) (name : String) : st.countFetch.issuer name = st.issuer name := rfl

@[simp]
theorem issuer_countFailure (st : State) (name : String) :
    st.countFailure.issuer name = st.issuer name := rfl

end State

namespace IssuerState

/-- What is held under a key id. -/
def held? (known : IssuerState) (keyId : String) : Option FoundKey := known.keys.bind (·.find? keyId)

/-- There is a set, and it is younger than the time to live. -/
def isYoung (known : IssuerState) (ttl now : Number) : Bool :=
  known.keys.isSome && !known.isStale ttl now

/-- There is a set, and it is expired. -/
def isExpired (known : IssuerState) (ttl now : Number) : Bool :=
  known.keys.isSome && known.isStale ttl now

/-- What a search falls back on if its fetch fails. -/
def fallback? (known : IssuerState) (ttl now : Number) (keyId : String) : Option FoundKey :=
  if known.isExpired ttl now then known.held? keyId else none

/-- The issuer with one more caller waiting for a fetch that is under way. -/
def joined (known : IssuerState) (flight : Flight) (w : Waiter) : IssuerState :=
  { known with flight := some { flight with waiters := flight.waiters ++ [w] } }

/-- The issuer with a fetch that has just begun. -/
def launched (known : IssuerState) (now : Number) (number : Nat) (doomed : Bool) (w : Waiter) :
    IssuerState :=
  { known with lastAttempt := now, flight := some ⟨number, doomed, [w]⟩ }

/-- The issuer when its fetch has brought nothing. -/
def landed (known : IssuerState) : IssuerState := { known with flight := none }

/-- The fetch that is under way could be sent. -/
def isSent (known : IssuerState) : Bool := known.flight.any fun flight => !flight.doomed

/-- The issuer when its fetch has brought keys. -/
def refreshed (known : IssuerState) (now : Number) (set : KeySet) : IssuerState :=
  { known with keys := some set, fetchedAt := now, flight := none }

end IssuerState

/-- What is found in a set is under the key id that was asked for. -/
theorem keyId_of_find? {set : KeySet} {keyId : String} {found : FoundKey}
    (h : set.find? keyId = some found) : found.entry.keyId = keyId := by
  obtain ⟨entry, there, rfl⟩ := Option.map_eq_some_iff.1 h
  simpa using List.find?_some there

theorem keyId_of_held? {known : IssuerState} {keyId : String} {found : FoundKey}
    (h : known.held? keyId = some found) : found.entry.keyId = keyId := by
  obtain ⟨set, -, there⟩ := Option.bind_eq_some_iff.1 h
  exact keyId_of_find? there

/-! ### How a call begins -/

section Call

variable (s : Settings) (now : Number) (st : State)

/-- **The ways of coming to wait for a fetch.** -/
inductive Loads (issuer address : String) (w : Waiter) : State × List Effect → Prop
  | joins {flight : Flight} (under_way : (st.issuer issuer).flight = some flight) :
    Loads issuer address w (st.setIssuer issuer ((st.issuer issuer).joined flight w), [])
  | sends (idle : (st.issuer issuer).flight = none) (can : s.canFetch = true) :
    Loads issuer address w
      (st.countFetch.setIssuer issuer ((st.issuer issuer).launched now (st.stats.fetches + 1) false w),
        [.send issuer address])
  | fails (idle : (st.issuer issuer).flight = none) (cannot : s.canFetch = false) :
    Loads issuer address w
      ((st.countFetch.setIssuer issuer
          ((st.issuer issuer).launched now (st.stats.fetches + 1) true w)).countFailure,
        [.count .error, .log (fetchFailedLog issuer address)])

theorem loads_load (issuer address : String) (w : Waiter) :
    Loads s now st issuer address w (load s now st issuer address w) := by
  cases there : (st.issuer issuer).flight with
  | some flight =>
    simp only [load, there]
    exact .joins there
  | none =>
    cases can : s.canFetch with
    | true =>
      simp only [load, there, can]
      exact .sends there can
    | false =>
      simp only [load, there, can]
      exact .fails there can

/-- **The ways of beginning a call.** -/
inductive Begins (caller : Nat) : Call → State × List Effect → Prop
  | stranger {issuer keyId : String} (absent : s.address? issuer = none) :
    Begins caller (.key issuer keyId)
      (st, [.log (.texts .debug "Key lookup for unregistered issuer" [("issuer", issuer)]),
        .answer caller (.key none)])
  | hit {issuer keyId address : String} {found : FoundKey} (there : s.address? issuer = some address)
      (young : (st.issuer issuer).isYoung s.ttl now = true)
      (held : (st.issuer issuer).held? keyId = some found) :
    Begins caller (.key issuer keyId) (st.countHit, [.answer caller (.key (some found))])
  | cooling {issuer keyId address : String} (there : s.address? issuer = some address)
      (young : (st.issuer issuer).isYoung s.ttl now = true)
      (missing : (st.issuer issuer).held? keyId = none) (idle : (st.issuer issuer).flight = none)
      (cooldown : (st.issuer issuer).inCooldown s.cooldown now = true) :
    Begins caller (.key issuer keyId)
      (st.countMiss, [.log (.texts .debug "Unknown kid during refresh cooldown"
          [("issuer", issuer), ("kid", keyId)]),
        .answer caller (.key none)])
  | searches {issuer keyId address : String} {result : State × List Effect}
      (there : s.address? issuer = some address)
      (miss : (st.issuer issuer).isYoung s.ttl now = true → (st.issuer issuer).held? keyId = none)
      (free : (st.issuer issuer).isYoung s.ttl now = true → (st.issuer issuer).flight = none →
        (st.issuer issuer).inCooldown s.cooldown now = false)
      (loads : Loads s now st.countMiss issuer address
        ⟨caller, .key keyId ((st.issuer issuer).fallback? s.ttl now keyId)⟩ result) :
    Begins caller (.key issuer keyId) result
  | strangerRefresh {issuer : String} (absent : s.address? issuer = none) :
    Begins caller (.refresh issuer) (st, [.answer caller (.unregistered issuer)])
  | refreshes {issuer address : String} {result : State × List Effect}
      (there : s.address? issuer = some address)
      (loads : Loads s now st issuer address ⟨caller, .count⟩ result) :
    Begins caller (.refresh issuer) result

/-- A search, in the words for what is known about its issuer. -/
theorem start_key (caller : Nat) {issuer address : String} (keyId : String)
    (registered : s.address? issuer = some address) :
    start s now st caller (.key issuer keyId) =
      match (if (st.issuer issuer).isYoung s.ttl now then (st.issuer issuer).held? keyId else none) with
      | some found => (st.countHit, [.answer caller (.key (some found))])
      | none =>
        if (st.issuer issuer).isYoung s.ttl now && (st.issuer issuer).flight.isNone &&
            (st.issuer issuer).inCooldown s.cooldown now then
          (st.countMiss, [.log (.texts .debug "Unknown kid during refresh cooldown"
              [("issuer", issuer), ("kid", keyId)]),
            .answer caller (.key none)])
        else
          load s now st.countMiss issuer address
            ⟨caller, .key keyId ((st.issuer issuer).fallback? s.ttl now keyId)⟩ := by
  -- A set that is not there is neither young nor out of date.
  have young_eq : ((st.issuer issuer).keys.isSome &&
      !((st.issuer issuer).keys.isSome && (st.issuer issuer).isStale s.ttl now)) =
        (st.issuer issuer).isYoung s.ttl now := by
    unfold IssuerState.isYoung
    cases (st.issuer issuer).keys.isSome with
    | true => simp only [Bool.true_and]
    | false => simp only [Bool.false_and]
  simp only [start, registered, young_eq]
  rfl

/-- **A call begins in one of these ways.** -/
theorem begins_start (caller : Nat) (call : Call) :
    Begins s now st caller call (start s now st caller call) := by
  cases call with
  | refresh issuer =>
    cases registered : s.address? issuer with
    | none =>
      simp only [start, registered]
      exact .strangerRefresh registered
    | some address =>
      simp only [start, registered]
      exact .refreshes registered (loads_load s now st issuer address _)
  | key issuer keyId =>
    cases registered : s.address? issuer with
    | none =>
      simp only [start, registered]
      exact .stranger registered
    | some address =>
      rw [start_key s now st caller keyId registered]
      split
      · rename_i found hit
        split at hit
        · rename_i young
          exact .hit registered young hit
        · cases hit
      · rename_i no_hit
        have miss : (st.issuer issuer).isYoung s.ttl now = true →
            (st.issuer issuer).held? keyId = none := by
          intro young
          rwa [if_pos young] at no_hit
        split
        · rename_i cools
          simp only [Bool.and_eq_true, Option.isNone_iff_eq_none] at cools
          obtain ⟨⟨young, idle⟩, cooldown⟩ := cools
          exact .cooling registered young (miss young) idle cooldown
        · rename_i not_cooling
          refine .searches registered miss ?_ (loads_load s now _ issuer address _)
          intro young idle
          rw [young, idle, Option.isNone_none, Bool.true_and, Bool.true_and] at not_cooling
          exact Bool.eq_false_iff.2 not_cooling

end Call

/-! ### How a fetch ends -/

/-- The keys that an outcome brings. -/
def FetchOutcome.published? (importKey : KeyImport) : FetchOutcome → Option (List KeyEntry)
  | document d => publishedKeys? importKey d
  | failed => none

namespace Effect

/-- The answer that an effect is, with its caller. -/
def answer? : Effect → Option (Nat × CallAnswer)
  | answer caller a => some (caller, a)
  | _ => none

/-- The request that an effect is: the issuer and the address. -/
def sent? : Effect → Option (String × String)
  | send issuer address => some (issuer, address)
  | _ => none

end Effect

/-- **What a waiter hears** when its fetch has ended. -/
def answerTo : Except Rejection KeySet → Want → CallAnswer
  | .ok set, .key keyId _ => .key (set.find? keyId)
  | .ok set, .count => .count set.entries.length
  | .error _, .key _ (some found) => .key (some found)
  | .error cause, .key _ none => .unavailable cause
  | .error cause, .count => .unavailable cause

section Fetch

variable (s : Settings) (now : Number) (st : State) (issuer : String)

/-- Each waiter gets its one answer. -/
theorem answers_answerWaiter (result : Except Rejection KeySet) (w : Waiter) :
    (answerWaiter issuer result w).filterMap Effect.answer? = [(w.caller, answerTo result w.want)] := by
  obtain ⟨caller, want⟩ := w
  cases result with
  | ok set => cases want <;> rfl
  | error cause =>
    cases want with
    | key keyId fallback => cases fallback <;> rfl
    | count => rfl

theorem sends_answerWaiter (result : Except Rejection KeySet) (w : Waiter) :
    (answerWaiter issuer result w).filterMap Effect.sent? = [] := by
  obtain ⟨caller, want⟩ := w
  cases result with
  | ok set => cases want <;> rfl
  | error cause =>
    cases want with
    | key keyId fallback => cases fallback <;> rfl
    | count => rfl

/-- Besides answering, the end of a fetch only reports. -/
private theorem reports_conclude {α : Type} (f : Effect → Option α) (flight : Flight)
    (outcome : FetchOutcome) (log : ∀ e, f (.log e) = none) (count : ∀ r, f (.count r) = none) :
    (conclude s now st issuer flight outcome).effects.filterMap (f ·.effect) = [] := by
  by_cases doomed : flight.doomed = true
  · simp only [conclude, if_pos doomed, List.filterMap_nil]
  · simp only [conclude, if_neg doomed]
    cases outcome with
    | failed => simp [log, count]
    | document d =>
      cases read : keyRecords d with
      | error faults => simp [read, log, count]
      | ok records => simp [read, log, count]

/-- **The ways of a fetch to end:** there is none, or it brings keys, which replace the set and its time
both at once, or it brings nothing, and only ends. -/
inductive Ends (outcome : FetchOutcome) : State × List TimedEffect → Prop
  | idle (idle : (st.issuer issuer).flight = none) : Ends outcome (st, [])
  | brings {flight : Flight} {keys : List KeyEntry} {effects : List TimedEffect}
      (under_way : (st.issuer issuer).flight = some flight) (sent : flight.doomed = false)
      (published : outcome.published? s.importKey = some keys)
      (sends : effects.filterMap (·.effect.sent?) = [])
      (answers : effects.filterMap (·.effect.answer?) =
        flight.waiters.map fun w => (w.caller, answerTo (.ok ⟨flight.number, keys⟩) w.want)) :
    Ends outcome
      (st.setIssuer issuer ((st.issuer issuer).refreshed now ⟨flight.number, keys⟩), effects)
  | fails {flight : Flight} {cause : Rejection} {st' : State} {effects : List TimedEffect}
      (under_way : (st.issuer issuer).flight = some flight)
      (nothing : flight.doomed = false → outcome.published? s.importKey = none)
      (known : ∀ name, st'.issuer name = (st.setIssuer issuer (st.issuer issuer).landed).issuer name)
      (sends : effects.filterMap (·.effect.sent?) = [])
      (answers : effects.filterMap (·.effect.answer?) =
        flight.waiters.map fun w => (w.caller, answerTo (.error cause) w.want)) :
    Ends outcome (st', effects)

/-- What a fetch that has ended says to those who wait for it, and that it sends nothing. -/
theorem effects_settle {flight : Flight} (outcome : FetchOutcome)
    (under_way : (st.issuer issuer).flight = some flight) :
    (settle s now st issuer outcome).2.filterMap (·.effect.sent?) = [] ∧
      (settle s now st issuer outcome).2.filterMap (·.effect.answer?) =
        flight.waiters.map fun w =>
          (w.caller, answerTo (conclude s now st issuer flight outcome).result w.want) := by
  simp only [settle, under_way, List.filterMap_append, List.filterMap_map, Function.comp_def]
  constructor
  · rw [reports_conclude s now st issuer Effect.sent? flight outcome (fun _ => rfl) (fun _ => rfl),
      List.filterMap_flatMap]
    simp [sends_answerWaiter]
  · rw [reports_conclude s now st issuer Effect.answer? flight outcome (fun _ => rfl) (fun _ => rfl),
      List.filterMap_flatMap]
    simp only [answers_answerWaiter, List.nil_append]
    rw [List.map_eq_flatMap]

/-- **A fetch ends in one of these ways.** -/
theorem ends_settle (outcome : FetchOutcome) :
    Ends s now st issuer outcome (settle s now st issuer outcome) := by
  cases under_way : (st.issuer issuer).flight with
  | none =>
    simp only [settle, under_way]
    exact .idle under_way
  | some flight =>
    obtain ⟨sends, answers⟩ := effects_settle s now st issuer outcome under_way
    have state : (settle s now st issuer outcome).1 = (conclude s now st issuer flight outcome).state := by
      simp only [settle, under_way]
    generalize settle s now st issuer outcome = result at sends answers state
    obtain ⟨st', effects⟩ := result
    subst state
    by_cases doomed : flight.doomed = true
    · simp only [conclude, if_pos doomed] at answers ⊢
      refine .fails under_way (fun sent => ?_) (fun name => rfl) sends answers
      rw [doomed] at sent
      cases sent
    · have sent : flight.doomed = false := Bool.eq_false_iff.2 doomed
      simp only [conclude, if_neg doomed] at answers ⊢
      cases outcome with
      | failed => exact .fails under_way (fun _ => rfl) (fun name => rfl) sends answers
      | document d =>
        cases read : keyRecords d with
        | error faults =>
          simp only [read] at answers ⊢
          refine .fails under_way (fun _ => ?_) (fun name => rfl) sends answers
          simp only [FetchOutcome.published?, publishedKeys?, read]
        | ok records =>
          simp only [read, entries_collectKeys] at answers ⊢
          refine .brings under_way sent ?_ sends answers
          simp only [FetchOutcome.published?, publishedKeys?, read]

variable {s now st issuer} {outcome : FetchOutcome} {result : State × List TimedEffect}

/-- After the end of a fetch none is under way. -/
theorem Ends.landed (ends : Ends s now st issuer outcome result) :
    (result.1.issuer issuer).flight = none := by
  cases ends with
  | idle idle => exact idle
  | brings under_way sent published sends answers =>
    rw [State.issuer_setIssuer_self]
    rfl
  | fails under_way nothing known sends answers =>
    rw [known, State.issuer_setIssuer_self]
    rfl

/-- Where none was under way, nothing ends. -/
theorem Ends.eq_of_idle (ends : Ends s now st issuer outcome result)
    (idle : (st.issuer issuer).flight = none) : result = (st, []) := by
  cases ends with
  | idle _ => rfl
  | brings under_way sent published sends answers =>
    rw [idle] at under_way
    cases under_way
  | fails under_way nothing known sends answers =>
    rw [idle] at under_way
    cases under_way

end Fetch

end KeyCache

end BearerGate
