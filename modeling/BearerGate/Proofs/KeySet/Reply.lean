import BearerGate.Proofs.KeySet.Provenance

/-!
# Who hears what

A call on the cache is answered at its own moment, or it **waits**.  Who waits for the fetch of an issuer
can be told from what was seen alone: it is the calls since the last end of a fetch that were not answered
at their moment (`waiting`).  The cache keeps the same list (`flight_eq`), and the end of a fetch answers
all of it, in the order of coming, with one result for everyone (`repliesAt_fetchEnd`).  So no answer is
given to anyone who has not asked (`map_repliesAt`), and no call is lost (`waiting_or_replied`).

On the way, `Settled` and `Waits` say all that a call can do, and `Changes` all that can become of an issuer at
one moment.
-/

namespace BearerGate

namespace KeyCache

/-! ### Calls and those who wait -/

/-- The answers of a moment, each with its caller. -/
def answersAt (s : Settings) (h : History) (m : Moment) : List (Nat × CallAnswer) :=
  (effectsAt s h m).filterMap Effect.answer?

/-- **A call that was made:** its time, its caller, and what had happened before. -/
structure Inquiry where
  now : Number
  caller : Nat
  call : Call
  before : History

namespace Inquiry

/-- The moment of the call. -/
def moment (p : Inquiry) : Moment := ⟨p.now, .call p.caller p.call⟩

/-- What was known about the issuer when the call was made. -/
def known (s : Settings) (p : Inquiry) : IssuerState := knownAfter s p.before p.call.issuer

/-- What the caller is to hear when a fetch has ended. -/
def want (s : Settings) (p : Inquiry) : Want := p.call.want s.ttl p.now (p.known s)

/-- The caller as one who waits. -/
def waiter (s : Settings) (p : Inquiry) : Waiter := ⟨p.caller, p.want s⟩

end Inquiry

/-- **Those who wait** for the fetch of an issuer, in the order in which they came: the calls since the last
end of a fetch that were not answered at their moment. -/
def waiting (s : Settings) (issuer : String) : History → List Inquiry
  | [] => []
  | ⟨now, .call caller c⟩ :: h =>
    if c.issuer = issuer ∧ (answersAt s h ⟨now, .call caller c⟩).isEmpty then
      waiting s issuer h ++ [⟨now, caller, c, h⟩]
    else waiting s issuer h
  | ⟨_, .fetchEnd name _⟩ :: h => if name = issuer then [] else waiting s issuer h

/-- Those who may hear an answer at a moment: a caller at once, or those who wait for a fetch that ends. -/
def hearersAt (s : Settings) (h : History) : Moment → List Inquiry
  | ⟨now, .call caller c⟩ => [⟨now, caller, c, h⟩]
  | ⟨_, .fetchEnd issuer _⟩ => waiting s issuer h

/-- **The replies of a moment:** its answers, each with the call that it answers. -/
def repliesAt (s : Settings) (h : History) (m : Moment) : List (Inquiry × CallAnswer) :=
  (hearersAt s h m).zip ((answersAt s h m).map (·.2))

/-! ### What one call does -/

/-- **What is answered at once, and why:** an issuer is not registered, a key is in an unexpired set, or it is
in none but the cooldown forbids a fetch. -/
inductive AtOnce (s : Settings) (now : Number) (known : IssuerState) : Call → CallAnswer → Prop
  | stranger {issuer keyId : String} (absent : s.address? issuer = none) :
    AtOnce s now known (.key issuer keyId) (.key none)
  | hit {issuer keyId address : String} {found : FoundKey} (there : s.address? issuer = some address)
      (young : known.isYoung s.ttl now = true) (held : known.held? keyId = some found) :
    AtOnce s now known (.key issuer keyId) (.key (some found))
  | cooling {issuer keyId address : String} (there : s.address? issuer = some address)
      (young : known.isYoung s.ttl now = true) (missing : known.held? keyId = none) :
    AtOnce s now known (.key issuer keyId) (.key none)
  | strangerRefresh {issuer : String} (absent : s.address? issuer = none) :
    AtOnce s now known (.refresh issuer) (.unregistered issuer)

/-- A call that is answered at once: with one answer and no request, and nothing that is known changes. -/
structure Settled (s : Settings) (now : Number) (st : State) (caller : Nat) (c : Call)
    (result : State × List Effect) : Prop where
  answers : ∃ a, AtOnce s now (st.issuer c.issuer) c a ∧
    result.2.filterMap Effect.answer? = [(caller, a)]
  requests : result.2.filterMap Effect.sent? = []
  known : ∀ name, result.1.issuer name = st.issuer name
  fetches : result.1.stats.fetches = st.stats.fetches

/-- A call that comes to wait, possibly after a miss was counted. -/
structure Waits (s : Settings) (now : Number) (st : State) (caller : Nat) (c : Call)
    (result : State × List Effect) : Prop where
  answers : result.2.filterMap Effect.answer? = []
  loads : ∃ st₀ address, (∀ name, st₀.issuer name = st.issuer name) ∧
    st₀.stats.fetches = st.stats.fetches ∧ s.address? c.issuer = some address ∧
    Loads s now st₀ c.issuer address ⟨caller, c.want s.ttl now (st.issuer c.issuer)⟩ result

section Call

variable {s : Settings} {now : Number} {st : State} {result : State × List Effect}

theorem Loads.answers {issuer address : String} {w : Waiter}
    (loads : Loads s now st issuer address w result) : result.2.filterMap Effect.answer? = [] := by
  cases loads with
  | joins under_way => rfl
  | sends idle can => rfl
  | fails idle cannot => rfl

/-- After coming to wait there is a fetch, and the new one is the last of those who wait for it. -/
theorem Loads.waiters {issuer address : String} {w : Waiter}
    (loads : Loads s now st issuer address w result) :
    (result.1.issuer issuer).flight.map (·.waiters) =
      some (((st.issuer issuer).flight.map (·.waiters)).getD [] ++ [w]) := by
  cases loads with
  | joins under_way =>
    rw [State.issuer_setIssuer_self, under_way]
    rfl
  | sends idle can =>
    rw [State.issuer_setIssuer_self, idle]
    rfl
  | fails idle cannot =>
    rw [State.issuer_countFailure, State.issuer_setIssuer_self, idle]
    rfl

/-- **A call is answered once, at its moment, or it waits.** -/
theorem Begins.settled_or_waits {caller : Nat} {c : Call} (begins : Begins s now st caller c result) :
    Settled s now st caller c result ∨ Waits s now st caller c result := by
  cases begins with
  | stranger absent => exact .inl ⟨⟨_, .stranger absent, rfl⟩, rfl, fun _ => rfl, rfl⟩
  | hit there young held => exact .inl ⟨⟨_, .hit there young held, rfl⟩, rfl, fun _ => rfl, rfl⟩
  | cooling there young missing idle cooldown =>
    exact .inl ⟨⟨_, .cooling there young missing, rfl⟩, rfl, fun _ => rfl, rfl⟩
  | searches there miss free loads =>
    exact .inr ⟨loads.answers, st.countMiss, _, fun _ => rfl, rfl, there, loads⟩
  | strangerRefresh absent => exact .inl ⟨⟨_, .strangerRefresh absent, rfl⟩, rfl, fun _ => rfl, rfl⟩
  | refreshes there loads => exact .inr ⟨loads.answers, st, _, fun _ => rfl, rfl, there, loads⟩

end Call

variable (s : Settings)

theorem settled_or_waits (h : History) (now : Number) (caller : Nat) (c : Call) :
    Settled s now (stateAfter s h) caller c
        (stateAfter s (⟨now, .call caller c⟩ :: h), effectsAt s h ⟨now, .call caller c⟩) ∨
      Waits s now (stateAfter s h) caller c
        (stateAfter s (⟨now, .call caller c⟩ :: h), effectsAt s h ⟨now, .call caller c⟩) :=
  (begins_call s h now caller c).settled_or_waits

/-- **The ways in which what is known about an issuer changes** at one moment. -/
inductive Changes (now : Number) (known : IssuerState) : IssuerState → Prop
  | stays : Changes now known known
  | joins {flight : Flight} {w : Waiter} (under_way : known.flight = some flight) :
    Changes now known (known.joined flight w)
  | launches {number : Nat} {w : Waiter} (idle : known.flight = none) :
    Changes now known (known.launched now number (!s.canFetch) w)
  | lands {flight : Flight} (under_way : known.flight = some flight) : Changes now known known.landed
  | refreshes {flight : Flight} {keys : List KeyEntry} (under_way : known.flight = some flight) :
    Changes now known (known.refreshed now ⟨flight.number, keys⟩)

theorem Loads.changes {s : Settings} {now : Number} {st : State} {issuer address : String} {w : Waiter}
    {result : State × List Effect} (loads : Loads s now st issuer address w result) :
    Changes s now (st.issuer issuer) (result.1.issuer issuer) := by
  cases loads with
  | joins under_way =>
    rw [State.issuer_setIssuer_self]
    exact .joins under_way
  | sends idle can =>
    rw [State.issuer_setIssuer_self, show false = !s.canFetch by rw [can]; rfl]
    exact .launches idle
  | fails idle cannot =>
    rw [State.issuer_countFailure, State.issuer_setIssuer_self, show true = !s.canFetch by rw [cannot]; rfl]
    exact .launches idle

/-- **What is known about an issuer changes in one of these ways.** -/
theorem changes_cons (issuer : String) (h : History) (m : Moment) :
    Changes s m.now (knownAfter s h issuer) (knownAfter s (m :: h) issuer) := by
  obtain ⟨now, event⟩ := m
  by_cases about : issuer = event.issuer
  · subst about
    cases event with
    | call caller c =>
      rcases settled_or_waits s h now caller c with settled | waits
      · rw [knownAfter, knownAfter, settled.known]
        exact .stays
      · obtain ⟨st₀, address, same, -, -, loads⟩ := waits.loads
        have changes := loads.changes
        rw [same] at changes
        exact changes
    | fetchEnd name outcome =>
      obtain ⟨st', effects, state, -, ends⟩ := ends_fetchEnd s h now name outcome
      rw [Event.issuer, knownAfter, knownAfter, state]
      cases ends with
      | idle idle => exact .stays
      | brings under_way sent published sends answers =>
        rw [State.issuer_setIssuer_self]
        exact .refreshes under_way
      | fails under_way nothing known sends answers =>
        rw [known, State.issuer_setIssuer_self]
        exact .lands under_way
  · rw [knownAfter_of_ne s h now event about]
    exact .stays

/-- **A key in an unexpired set is answered at once,** and nothing else happens. -/
theorem effectsAt_of_hit {h : History} {now : Number} (caller : Nat) {issuer keyId : String}
    {found : FoundKey} (young : (knownAfter s h issuer).isYoung s.ttl now = true)
    (held : (knownAfter s h issuer).held? keyId = some found) :
    effectsAt s h ⟨now, .call caller (.key issuer keyId)⟩ = [.answer caller (.key (some found))] ∧
      ∀ name, knownAfter s (⟨now, .call caller (.key issuer keyId)⟩ :: h) name = knownAfter s h name := by
  have begins := begins_call s h now caller (.key issuer keyId)
  rw [knownAfter] at young held
  have state : ∀ name, (stateAfter s (⟨now, .call caller (.key issuer keyId)⟩ :: h)).issuer name =
      knownAfter s (⟨now, .call caller (.key issuer keyId)⟩ :: h) name := fun _ => rfl
  simp only [← state]
  generalize stateAfter s (⟨now, .call caller (.key issuer keyId)⟩ :: h) = st' at begins ⊢
  generalize effectsAt s h ⟨now, .call caller (.key issuer keyId)⟩ = effects at begins ⊢
  cases begins with
  | stranger absent =>
    have nothing := knownAfter_of_stranger s absent h
    rw [knownAfter] at nothing
    rw [nothing] at held
    cases held
  | hit there young' held' =>
    cases held.symm.trans held'
    exact ⟨rfl, fun _ => rfl⟩
  | cooling there young' missing idle cooldown => exact absurd (held.symm.trans missing) (by simp)
  | searches there miss free loads => exact absurd (held.symm.trans (miss young)) (by simp)

/-! ### Who waits after one moment more -/

section Moment

variable {s} {h : History} {now : Number} {caller : Nat} {c : Call} {issuer : String}

/-- A call that is answered at once does not wait. -/
theorem waiting_call_of_answered {a : CallAnswer}
    (answered : answersAt s h ⟨now, .call caller c⟩ = [(caller, a)]) :
    waiting s issuer (⟨now, .call caller c⟩ :: h) = waiting s issuer h := by
  rw [waiting, if_neg]
  rw [answered]
  simp

/-- A call that is not answered at once waits, after those who wait already. -/
theorem waiting_call_of_silent (silent : answersAt s h ⟨now, .call caller c⟩ = []) :
    waiting s c.issuer (⟨now, .call caller c⟩ :: h) = waiting s c.issuer h ++ [⟨now, caller, c, h⟩] := by
  rw [waiting, if_pos]
  exact ⟨rfl, by rw [silent]; rfl⟩

/-- Whoever waits goes on waiting when a call is made. -/
theorem waiting_prefix_call : waiting s issuer h <+: waiting s issuer (⟨now, .call caller c⟩ :: h) := by
  rw [waiting]
  split
  · exact List.prefix_append _ _
  · exact List.prefix_refl _

/-- Nobody waits for a fetch that has ended. -/
@[simp]
theorem waiting_fetchEnd_self (outcome : FetchOutcome) :
    waiting s issuer (⟨now, .fetchEnd issuer outcome⟩ :: h) = [] := by
  rw [waiting, if_pos rfl]

/-- What happens to other issuers changes nothing about who waits. -/
theorem waiting_of_ne {event : Event} (ne : issuer ≠ event.issuer) :
    waiting s issuer (⟨now, event⟩ :: h) = waiting s issuer h := by
  cases event with
  | call caller c => exact if_neg fun both => ne both.1.symm
  | fetchEnd name outcome => exact if_neg (Ne.symm ne)

end Moment

/-- **The fetch that is under way is kept with those who wait for it;** there is none if nobody waits. -/
theorem flight_eq (issuer : String) (h : History) :
    (knownAfter s h issuer).flight.map (·.waiters) =
      if waiting s issuer h = [] then none else some ((waiting s issuer h).map (·.waiter s)) := by
  induction h with
  | nil => rfl
  | cons m h ih =>
    obtain ⟨now, event⟩ := m
    by_cases about : issuer = event.issuer
    · subst about
      cases event with
      | call caller c =>
        rw [Event.issuer] at ih ⊢
        rcases settled_or_waits s h now caller c with settled | waits
        · obtain ⟨a, -, answered⟩ := settled.answers
          rw [waiting_call_of_answered answered, knownAfter, settled.known]
          exact ih
        · obtain ⟨st₀, address, same, -, -, loads⟩ := waits.loads
          rw [waiting_call_of_silent waits.answers, if_neg (by simp), knownAfter, loads.waiters, same]
          -- Those who waited before are none, or those of the fetch that was under way.
          have before : ((knownAfter s h c.issuer).flight.map (·.waiters)).getD [] =
              (waiting s c.issuer h).map (·.waiter s) := by
            rw [ih]
            split
            · rename_i nobody
              rw [nobody]
              rfl
            · rfl
          rw [List.map_append]
          exact congrArg (fun ws => some (ws ++ _)) before
      | fetchEnd name outcome =>
        obtain ⟨st', effects, state, -, ends⟩ := ends_fetchEnd s h now name outcome
        rw [Event.issuer, waiting_fetchEnd_self, if_pos rfl, knownAfter, state, ends.landed]
        rfl
    · rw [knownAfter_of_ne s h now event about, waiting_of_ne about]
      exact ih

/-- A fetch is under way exactly if someone waits for it. -/
theorem waiting_eq_nil_iff (issuer : String) (h : History) :
    waiting s issuer h = [] ↔ (knownAfter s h issuer).flight = none := by
  have eq := flight_eq s issuer h
  constructor
  · intro nobody
    rw [if_pos nobody] at eq
    exact Option.map_eq_none_iff.1 eq
  · intro idle
    rw [idle] at eq
    split at eq
    · assumption
    · cases eq

theorem waiters_eq {issuer : String} {h : History} {flight : Flight}
    (under_way : (knownAfter s h issuer).flight = some flight) :
    flight.waiters = (waiting s issuer h).map (·.waiter s) := by
  have eq := flight_eq s issuer h
  rw [under_way] at eq
  split at eq
  · cases eq
  · exact Option.some.inj eq

/-! ### Replies -/

section Call

variable {s} {h : History} {now : Number} {caller : Nat} {c : Call}

theorem repliesAt_call_of_answered {a : CallAnswer}
    (answered : answersAt s h ⟨now, .call caller c⟩ = [(caller, a)]) :
    repliesAt s h ⟨now, .call caller c⟩ = [(⟨now, caller, c, h⟩, a)] := by
  rw [repliesAt, answered]
  rfl

theorem repliesAt_call_of_silent (silent : answersAt s h ⟨now, .call caller c⟩ = []) :
    repliesAt s h ⟨now, .call caller c⟩ = [] := by
  rw [repliesAt, silent]
  rfl

end Call

/-- A document came that does not have the shape of a key set. -/
def FetchOutcome.Misshapen : FetchOutcome → Prop
  | document d => ∃ faults, keyRecords d = .error faults
  | failed => False

/-- **Why the keys of an issuer are unavailable** when a fetch has ended. -/
inductive Unavailable (issuer : String) (outcome : FetchOutcome) : Rejection → Prop
  | unreachable : Unavailable issuer outcome (.keysUnreachable issuer)
  | misshapen (misshapen : outcome.Misshapen) : Unavailable issuer outcome (.keysMisshapen issuer)

theorem Unavailable.reason {issuer : String} {outcome : FetchOutcome} {cause : Rejection}
    (unavailable : Unavailable issuer outcome cause) : cause.reason = .keySetUnavailable := by
  cases unavailable with
  | unreachable => rfl
  | misshapen _ => rfl

/-- **How the end of a fetch is heard of:** it has brought the set that is held from now on, or it has
brought nothing, and the keys are unavailable. -/
inductive Heard (h : History) (now : Number) (issuer : String) (outcome : FetchOutcome) :
    Except Rejection KeySet → Prop
  | brings {set : KeySet}
      (brought : brought? s issuer h ⟨now, .fetchEnd issuer outcome⟩ = some (now, set.entries))
      (held : (knownAfter s (⟨now, .fetchEnd issuer outcome⟩ :: h) issuer).keys = some set) :
    Heard h now issuer outcome (.ok set)
  | fails {cause : Rejection} (nothing : brought? s issuer h ⟨now, .fetchEnd issuer outcome⟩ = none)
      (unavailable : Unavailable issuer outcome cause) :
    Heard h now issuer outcome (.error cause)

/-- The result of a fetch that has ended: the set that its document brings, or a cause for keys not being
available. -/
theorem result_conclude (now : Number) (st : State) (issuer : String) (flight : Flight)
    (outcome : FetchOutcome) :
    (∃ keys, flight.doomed = false ∧ outcome.published? s.importKey = some keys ∧
        (conclude s now st issuer flight outcome).result = .ok ⟨flight.number, keys⟩) ∨
      ∃ cause, (flight.doomed = false → outcome.published? s.importKey = none) ∧
        Unavailable issuer outcome cause ∧
        (conclude s now st issuer flight outcome).result = .error cause := by
  by_cases doomed : flight.doomed = true
  · refine .inr ⟨.keysUnreachable issuer, by simp [doomed], .unreachable, ?_⟩
    simp only [conclude, if_pos doomed]
  · simp only [conclude, if_neg doomed]
    cases outcome with
    | failed => exact .inr ⟨.keysUnreachable issuer, fun _ => rfl, .unreachable, rfl⟩
    | document d =>
      cases read : keyRecords d with
      | error faults =>
        refine .inr ⟨.keysMisshapen issuer, fun _ => ?_, .misshapen ⟨faults, read⟩, by simp only [read]⟩
        simp only [FetchOutcome.published?, publishedKeys?, read]
      | ok records =>
        refine .inl ⟨usableKeys s.importKey records, Bool.eq_false_iff.2 doomed, ?_, ?_⟩
        · simp only [FetchOutcome.published?, publishedKeys?, read]
        · simp only [read, entries_collectKeys]

/-- Nothing is brought for an issuer that has no fetch under way. -/
theorem brought?_of_idle {issuer : String} {h : History} (idle : (knownAfter s h issuer).flight = none)
    (now : Number) (outcome : FetchOutcome) :
    brought? s issuer h ⟨now, .fetchEnd issuer outcome⟩ = none := by
  rw [brought?, if_neg]
  rw [isOut_eq, IssuerState.isSent, idle]
  simp

/-- What the end of a fetch that is under way brings: what its document publishes, if it could be sent. -/
theorem brought?_of_flight {issuer : String} {h : History} {flight : Flight}
    (under_way : (knownAfter s h issuer).flight = some flight) (now : Number) (outcome : FetchOutcome) :
    brought? s issuer h ⟨now, .fetchEnd issuer outcome⟩ =
      if flight.doomed then none else (outcome.published? s.importKey).map (now, ·) := by
  rw [brought?, isOut_eq, IssuerState.isSent, under_way, Option.any_some]
  cases flight.doomed with
  | true => rw [if_neg (by simp), if_pos rfl]
  | false => rw [if_pos ⟨rfl, rfl⟩, if_neg Bool.false_ne_true]

/-- The answers at the end of a fetch go to those who wait for it, in their order. -/
theorem answersAt_fetchEnd (h : History) (now : Number) (issuer : String) (outcome : FetchOutcome) :
    ∃ result, Heard s h now issuer outcome result ∧
      answersAt s h ⟨now, .fetchEnd issuer outcome⟩ =
        (waiting s issuer h).map fun p => (p.caller, answerTo result (p.want s)) := by
  obtain ⟨st', effects, state, said, ends⟩ := ends_fetchEnd s h now issuer outcome
  cases under_way : (knownAfter s h issuer).flight with
  | none =>
    refine ⟨.error (.keysUnreachable issuer),
      .fails (brought?_of_idle s under_way now outcome) .unreachable, ?_⟩
    obtain ⟨-, nothing⟩ := Prod.mk.inj (ends.eq_of_idle under_way)
    rw [answersAt, said, nothing, (waiting_eq_nil_iff s issuer h).2 under_way]
    rfl
  | some flight =>
    have brings := brought?_of_flight s under_way now outcome
    refine ⟨(conclude s now (stateAfter s h) issuer flight outcome).result, ?_, ?_⟩
    · rcases result_conclude s now (stateAfter s h) issuer flight outcome with
        ⟨keys, sent, published, result⟩ | ⟨cause, nothing, unavailable, result⟩
      · rw [result]
        refine .brings (by rw [brings, sent, published]; rfl) ?_
        rw [knownAfter, state]
        cases ends with
        | idle idle => exact absurd (idle.symm.trans under_way) (by simp)
        | brings under_way' sent' published' sends answers =>
          cases under_way.symm.trans under_way'
          cases published.symm.trans published'
          rw [State.issuer_setIssuer_self]
          rfl
        | fails under_way' nothing known sends answers =>
          cases under_way.symm.trans under_way'
          exact absurd (published.symm.trans (nothing sent)) (by simp)
      · rw [result]
        refine .fails ?_ unavailable
        rw [brings]
        cases sent : flight.doomed with
        | true => rfl
        | false =>
          rw [nothing sent]
          rfl
    · have heard := (effects_settle s now (stateAfter s h) issuer outcome under_way).2
      rw [waiters_eq s under_way, List.map_map] at heard
      rw [answersAt, effectsAt, occur, List.filterMap_map]
      exact heard

theorem repliesAt_of_answersAt {h : History} {now : Number} {issuer : String} {outcome : FetchOutcome}
    {f : Inquiry → CallAnswer}
    (answers : answersAt s h ⟨now, .fetchEnd issuer outcome⟩ =
      (waiting s issuer h).map fun p => (p.caller, f p)) :
    repliesAt s h ⟨now, .fetchEnd issuer outcome⟩ = (waiting s issuer h).map fun p => (p, f p) := by
  rw [repliesAt, hearersAt, answers, List.map_map, ← List.zip_map', List.map_id']
  rfl

/-- **The end of a fetch answers everyone who waits for it,** with one result. -/
theorem repliesAt_fetchEnd (h : History) (now : Number) (issuer : String) (outcome : FetchOutcome) :
    ∃ result, Heard s h now issuer outcome result ∧
      repliesAt s h ⟨now, .fetchEnd issuer outcome⟩ =
        (waiting s issuer h).map fun p => (p, answerTo result (p.want s)) := by
  obtain ⟨result, heard, answers⟩ := answersAt_fetchEnd s h now issuer outcome
  exact ⟨result, heard, repliesAt_of_answersAt s answers⟩

/-- **Every answer goes to the one who asked:** the replies of a moment are its answers, all of them and in
their order. -/
theorem map_repliesAt (h : History) (m : Moment) :
    (repliesAt s h m).map (fun r => (r.1.caller, r.2)) = answersAt s h m := by
  obtain ⟨now, event⟩ := m
  cases event with
  | call caller c =>
    rcases settled_or_waits s h now caller c with settled | waits
    · obtain ⟨a, -, answered⟩ := settled.answers
      change answersAt s h _ = _ at answered
      rw [repliesAt_call_of_answered answered, answered]
      rfl
    · have silent : answersAt s h ⟨now, .call caller c⟩ = [] := waits.answers
      rw [repliesAt_call_of_silent silent, silent]
      rfl
  | fetchEnd issuer outcome =>
    obtain ⟨result, -, answers⟩ := answersAt_fetchEnd s h now issuer outcome
    rw [repliesAt_of_answersAt s answers, answers, List.map_map]
    rfl

/-- Whoever waits hears an answer when the fetch ends. -/
theorem reply_of_waiting {p : Inquiry} {issuer : String} {h : History} (waits : p ∈ waiting s issuer h)
    (now : Number) (outcome : FetchOutcome) :
    ∃ a, (p, a) ∈ repliesAt s h ⟨now, .fetchEnd issuer outcome⟩ := by
  obtain ⟨result, -, replies⟩ := repliesAt_fetchEnd s h now issuer outcome
  rw [replies]
  exact ⟨_, List.mem_map.2 ⟨p, waits, rfl⟩⟩

/-- **Whoever hears an answer** hears it at once, or has waited for a fetch that ends. -/
theorem hears_of_reply {p : Inquiry} {a : CallAnswer} {h : History} {m : Moment}
    (reply : (p, a) ∈ repliesAt s h m) :
    (m = p.moment ∧ h = p.before ∧ AtOnce s p.now (p.known s) p.call a) ∨
      ∃ now issuer outcome result, m = ⟨now, .fetchEnd issuer outcome⟩ ∧ p ∈ waiting s issuer h ∧
        Heard s h now issuer outcome result ∧ a = answerTo result (p.want s) := by
  obtain ⟨now, event⟩ := m
  cases event with
  | call caller c =>
    rcases settled_or_waits s h now caller c with settled | waits
    · obtain ⟨a', why, answered⟩ := settled.answers
      rw [repliesAt_call_of_answered answered] at reply
      cases List.mem_singleton.1 reply
      exact .inl ⟨rfl, rfl, why⟩
    · rw [repliesAt_call_of_silent waits.answers] at reply
      cases reply
  | fetchEnd issuer outcome =>
    obtain ⟨result, heard, replies⟩ := repliesAt_fetchEnd s h now issuer outcome
    rw [replies] at reply
    obtain ⟨p', waits, same⟩ := List.mem_map.1 reply
    cases same
    exact .inr ⟨now, issuer, outcome, result, rfl, waits, heard, rfl⟩

/-- A call that is not answered at once is about an issuer that is registered. -/
theorem registered_of_silent {p : Inquiry} (silent : answersAt s p.before p.moment = []) :
    s.address? p.call.issuer ≠ none := by
  rcases settled_or_waits s p.before p.now p.caller p.call with settled | waits
  · obtain ⟨a, -, answered⟩ := settled.answers
    exact absurd (silent.symm.trans answered) (by simp)
  · obtain ⟨st₀, address, -, -, there, -⟩ := waits.loads
    rw [there]
    exact Option.some_ne_none address

/-- **Whoever waits has called,** has heard nothing at that moment, and the set has not been replaced since. -/
theorem kept_of_waiting {p : Inquiry} {issuer : String} {h : History} (waits : p ∈ waiting s issuer h) :
    p.call.issuer = issuer ∧ p.moment :: p.before <:+ h ∧ answersAt s p.before p.moment = [] ∧
      (knownAfter s h issuer).keys = (p.known s).keys := by
  induction h with
  | nil => cases waits
  | cons m h ih =>
    obtain ⟨now, event⟩ := m
    cases event with
    | call caller c =>
      rw [(kept_of_call s h now caller c issuer).1]
      have grows : h <:+ ⟨now, .call caller c⟩ :: h := List.suffix_cons _ h
      rw [waiting] at waits
      split at waits
      · rename_i asked
        rcases List.mem_append.1 waits with before | this_call
        · obtain ⟨about, made, silent, keys⟩ := ih before
          exact ⟨about, made.trans grows, silent, keys⟩
        · cases List.mem_singleton.1 this_call
          obtain ⟨rfl, silent⟩ := asked
          exact ⟨rfl, List.suffix_refl _, List.isEmpty_iff.1 silent, rfl⟩
      · obtain ⟨about, made, silent, keys⟩ := ih waits
        exact ⟨about, made.trans grows, silent, keys⟩
    | fetchEnd name outcome =>
      by_cases about : issuer = name
      · subst about
        rw [waiting_fetchEnd_self] at waits
        cases waits
      · rw [waiting_of_ne about] at waits
        obtain ⟨about', made, silent, keys⟩ := ih waits
        rw [knownAfter_of_ne s h now (.fetchEnd name outcome) about]
        exact ⟨about', made.trans (List.suffix_cons _ h), silent, keys⟩

/-- A call is answered at once, or waits. -/
theorem replied_or_waiting (p : Inquiry) :
    (∃ a, (p, a) ∈ repliesAt s p.before p.moment) ∨ p ∈ waiting s p.call.issuer (p.moment :: p.before) := by
  obtain ⟨now, caller, c, before⟩ := p
  rw [Inquiry.moment]
  rcases settled_or_waits s before now caller c with settled | waits
  · obtain ⟨a, -, answered⟩ := settled.answers
    refine .inl ⟨a, ?_⟩
    rw [repliesAt_call_of_answered answered]
    exact List.mem_singleton.2 rfl
  · refine .inr ?_
    rw [waiting_call_of_silent waits.answers]
    exact List.mem_append_right _ (List.mem_singleton.2 rfl)

/-- **No call is lost:** whoever has called waits, or has heard. -/
theorem waiting_or_replied {h : History} (p : Inquiry) (made : p.moment :: p.before <:+ h) :
    p ∈ waiting s p.call.issuer h ∨ ∃ m b a, m :: b <:+ h ∧ (p, a) ∈ repliesAt s b m := by
  induction h with
  | nil => exact absurd (List.suffix_nil.1 made) (by simp)
  | cons m h ih =>
    rcases List.suffix_cons_iff.1 made with this_moment | earlier
    · rw [← this_moment]
      rcases replied_or_waiting s p with ⟨a, reply⟩ | waits
      · exact .inr ⟨p.moment, p.before, a, List.suffix_refl _, reply⟩
      · exact .inl waits
    · rcases ih earlier with waits | ⟨m', b, a, part, reply⟩
      · obtain ⟨now, event⟩ := m
        cases event with
        | call caller c => exact .inl (waiting_prefix_call.subset waits)
        | fetchEnd name outcome =>
          by_cases about : p.call.issuer = name
          · subst about
            obtain ⟨a, reply⟩ := reply_of_waiting s waits now outcome
            exact .inr ⟨_, h, a, List.suffix_refl _, reply⟩
          · rw [waiting_of_ne about]
            exact .inl waits
      · exact .inr ⟨m', b, a, part.trans (List.suffix_cons m h), reply⟩

end KeyCache

end BearerGate
