import BearerGate.KeySet.Session
import BearerGate.Proofs.KeySet.Step

/-!
# Histories of the cache

What can happen to a cache is that a call begins and that a fetch ends, at any time and in any order; a
**history** is what has happened so far, the latest first.  Calls that wait side by side, groups of them
and clocks that jump are all histories, and so is everything that a session does
(`KeySession.callAll_history`).

What is known about an issuer changes in few ways from one moment to the next: `knownAfter_of_ne` says
that others are not touched, `asked_of_waits` that whoever waits has asked, and `isOut_eq` when a request is
out.
-/

namespace BearerGate

namespace KeyCache

/-! ### Histories -/

/-- **What can happen.** -/
inductive Event where
  | call (caller : Nat) (c : Call)
  | fetchEnd (issuer : String) (outcome : FetchOutcome)

/-- The issuer that a call is about. -/
def Call.issuer : Call → String
  | key issuer _ => issuer
  | refresh issuer => issuer

/-- The issuer that an event is about. -/
def Event.issuer : Event → String
  | call _ c => c.issuer
  | fetchEnd issuer _ => issuer

/-- **An event at its time.** -/
structure Moment where
  now : Number
  event : Event

/-- What an event does. -/
def occur (s : Settings) (st : State) (m : Moment) : State × List Effect :=
  match m.event with
  | .call caller c => start s m.now st caller c
  | .fetchEnd issuer outcome =>
    let result := settle s m.now st issuer outcome
    (result.1, result.2.map (·.effect))

/-- **What has happened so far,** the latest first. -/
abbrev History : Type := List Moment

/-- **The state that a history leads to.** -/
def stateAfter (s : Settings) : History → State
  | [] => {}
  | m :: h => (occur s (stateAfter s h) m).1

/-- The effects of a moment after a history. -/
def effectsAt (s : Settings) (h : History) (m : Moment) : List Effect := (occur s (stateAfter s h) m).2

/-- What is known about an issuer after a history. -/
def knownAfter (s : Settings) (h : History) (issuer : String) : IssuerState :=
  (stateAfter s h).issuer issuer

/-- Among some effects there is a request to an issuer. -/
def sendsTo (issuer : String) (effects : List Effect) : Bool :=
  effects.any fun e => e.sent?.any (·.1 = issuer)

/-- **A request is out for the document of an issuer:** it was sent, and the fetch has not ended. -/
def isOut (s : Settings) (issuer : String) : History → Bool
  | [] => false
  | ⟨now, .call caller c⟩ :: h =>
    sendsTo issuer (effectsAt s h ⟨now, .call caller c⟩) || isOut s issuer h
  | ⟨_, .fetchEnd name _⟩ :: h => if name = issuer then false else isOut s issuer h

/-! ### What a call does to what is known -/

namespace Loads

variable {s : Settings} {now : Number} {st : State} {issuer address : String} {w : Waiter}
  {result : State × List Effect}

theorem issuer_of_ne (loads : Loads s now st issuer address w result) {other : String}
    (ne : other ≠ issuer) : result.1.issuer other = st.issuer other := by
  cases loads with
  | joins under_way => exact State.issuer_setIssuer_of_ne _ _ ne
  | sends idle can => exact State.issuer_setIssuer_of_ne _ _ ne
  | fails idle cannot => exact State.issuer_setIssuer_of_ne _ _ ne

/-- The set stays, and its time. -/
theorem kept (loads : Loads s now st issuer address w result) :
    (result.1.issuer issuer).keys = (st.issuer issuer).keys ∧
      (result.1.issuer issuer).fetchedAt = (st.issuer issuer).fetchedAt := by
  cases loads with
  | joins under_way =>
    rw [State.issuer_setIssuer_self]
    exact ⟨rfl, rfl⟩
  | sends idle can =>
    rw [State.issuer_setIssuer_self]
    exact ⟨rfl, rfl⟩
  | fails idle cannot =>
    rw [State.issuer_countFailure, State.issuer_setIssuer_self]
    exact ⟨rfl, rfl⟩

/-- Who waits afterwards waited before, or is the new one. -/
theorem waits (loads : Loads s now st issuer address w result) {flight : Flight} {w' : Waiter}
    (under_way : (result.1.issuer issuer).flight = some flight) (member : w' ∈ flight.waiters) :
    w' = w ∨ ∃ before, (st.issuer issuer).flight = some before ∧ w' ∈ before.waiters := by
  cases loads with
  | joins before =>
    rw [State.issuer_setIssuer_self] at under_way
    cases under_way
    rcases List.mem_append.1 member with old | new
    · exact .inr ⟨_, before, old⟩
    · exact .inl (List.mem_singleton.1 new)
  | sends idle can =>
    rw [State.issuer_setIssuer_self] at under_way
    cases under_way
    exact .inl (List.mem_singleton.1 member)
  | fails idle cannot =>
    rw [State.issuer_countFailure, State.issuer_setIssuer_self] at under_way
    cases under_way
    exact .inl (List.mem_singleton.1 member)

/-- A fetch that was sent is under way exactly if there was one before or a request goes out now. -/
theorem isSent_eq (loads : Loads s now st issuer address w result) :
    (result.1.issuer issuer).isSent = (sendsTo issuer result.2 || (st.issuer issuer).isSent) := by
  cases loads with
  | joins under_way =>
    rw [State.issuer_setIssuer_self, IssuerState.isSent, IssuerState.isSent, under_way]
    rfl
  | sends idle can =>
    rw [State.issuer_setIssuer_self]
    simp [IssuerState.isSent, IssuerState.launched, sendsTo, Effect.sent?]
  | fails idle cannot =>
    rw [State.issuer_countFailure, State.issuer_setIssuer_self, IssuerState.isSent, IssuerState.isSent, idle]
    rfl

/-- What is sent goes to the address of the issuer. -/
theorem sent (loads : Loads s now st issuer address w result) {name target : String}
    (member : .send name target ∈ result.2) : name = issuer ∧ target = address := by
  cases loads with
  | joins under_way => cases member
  | sends idle can =>
    cases List.mem_singleton.1 member
    exact ⟨rfl, rfl⟩
  | fails idle cannot => simp at member

/-- Nobody is answered yet. -/
theorem no_answer (loads : Loads s now st issuer address w result) (caller : Nat) (a : CallAnswer) :
    .answer caller a ∉ result.2 := by
  cases loads with
  | joins under_way => exact List.not_mem_nil
  | sends idle can => simp
  | fails idle cannot => simp

end Loads

/-- What a call waits for, if it has to wait. -/
def Call.want (ttl now : Number) (known : IssuerState) : Call → Want
  | key _ keyId => .key keyId (known.fallback? ttl now keyId)
  | refresh _ => .count

/-- **A call is answered at once,** and what is known stays as it is, **or it waits for a fetch.** -/
theorem Begins.answered_or_waits {s : Settings} {now : Number} {st : State} {caller : Nat} {c : Call}
    {result : State × List Effect} (begins : Begins s now st caller c result) :
    ((∀ name, result.1.issuer name = st.issuer name) ∧ ∀ name target, .send name target ∉ result.2) ∨
      ∃ st₀ address, (∀ name, st₀.issuer name = st.issuer name) ∧ s.address? c.issuer = some address ∧
        Loads s now st₀ c.issuer address ⟨caller, c.want s.ttl now (st.issuer c.issuer)⟩ result := by
  cases begins with
  | stranger absent => exact .inl ⟨fun _ => rfl, by simp⟩
  | hit there young held => exact .inl ⟨fun _ => rfl, by simp⟩
  | cooling there young missing idle cooldown => exact .inl ⟨fun _ => rfl, by simp⟩
  | searches there miss free loads => exact .inr ⟨st.countMiss, _, fun _ => rfl, there, loads⟩
  | strangerRefresh absent => exact .inl ⟨fun _ => rfl, by simp⟩
  | refreshes there loads => exact .inr ⟨st, _, fun _ => rfl, there, loads⟩

/-! ### One moment more -/

section Moment

variable (s : Settings) (h : History) (now : Number)

/-- The ways of a call to begin after a history. -/
theorem begins_call (caller : Nat) (c : Call) :
    Begins s now (stateAfter s h) caller c
      (stateAfter s (⟨now, .call caller c⟩ :: h), effectsAt s h ⟨now, .call caller c⟩) :=
  begins_start s now (stateAfter s h) caller c

/-- The ways of a fetch to end after a history. -/
theorem ends_fetchEnd (issuer : String) (outcome : FetchOutcome) :
    ∃ st' effects, stateAfter s (⟨now, .fetchEnd issuer outcome⟩ :: h) = st' ∧
      effectsAt s h ⟨now, .fetchEnd issuer outcome⟩ = effects.map (·.effect) ∧
      Ends s now (stateAfter s h) issuer outcome (st', effects) :=
  ⟨_, _, rfl, rfl, ends_settle s now (stateAfter s h) issuer outcome⟩

/-- **Other issuers are not touched** by what happens to one. -/
theorem knownAfter_of_ne (event : Event) {issuer : String} (ne : issuer ≠ event.issuer) :
    knownAfter s (⟨now, event⟩ :: h) issuer = knownAfter s h issuer := by
  cases event with
  | call caller c =>
    rcases (begins_call s h now caller c).answered_or_waits with ⟨same, -⟩ | ⟨st₀, address, same, -, loads⟩
    · exact same issuer
    · exact (loads.issuer_of_ne ne).trans (same issuer)
  | fetchEnd name outcome =>
    obtain ⟨st', effects, state, -, ends⟩ := ends_fetchEnd s h now name outcome
    rw [knownAfter, state]
    cases ends with
    | idle idle => rfl
    | brings under_way sent published sends answers => exact State.issuer_setIssuer_of_ne _ _ ne
    | fails under_way nothing known sends answers =>
      exact (known issuer).trans (State.issuer_setIssuer_of_ne _ _ ne)

/-- **A call changes no set** and no time of a set. -/
theorem kept_of_call (caller : Nat) (c : Call) (issuer : String) :
    (knownAfter s (⟨now, .call caller c⟩ :: h) issuer).keys = (knownAfter s h issuer).keys ∧
      (knownAfter s (⟨now, .call caller c⟩ :: h) issuer).fetchedAt = (knownAfter s h issuer).fetchedAt := by
  by_cases asked : issuer = c.issuer
  · subst asked
    rcases (begins_call s h now caller c).answered_or_waits with ⟨same, -⟩ | ⟨st₀, address, same, -, loads⟩
    · rw [knownAfter, same]
      exact ⟨rfl, rfl⟩
    · have kept := loads.kept
      rw [same] at kept
      exact kept
  · rw [knownAfter_of_ne s h now (.call caller c) asked]
    exact ⟨rfl, rfl⟩

end Moment

/-! ### Whole histories -/

variable (s : Settings)

/-- Nothing is sent to an issuer where all requests go to others. -/
theorem sendsTo_eq_false {issuer : String} {effects : List Effect}
    (others : ∀ name target, .send name target ∈ effects → name ≠ issuer) :
    sendsTo issuer effects = false := by
  rw [sendsTo, List.any_eq_false]
  rintro (⟨name, target⟩ | _ | _ | _) member
  · simp [Effect.sent?, others name target member]
  all_goals simp [Effect.sent?]

/-- **A request is out exactly if a fetch that could be sent is under way.** -/
theorem isOut_eq (issuer : String) (h : History) : isOut s issuer h = (knownAfter s h issuer).isSent := by
  induction h with
  | nil => rfl
  | cons m h ih =>
    obtain ⟨now, event⟩ := m
    cases event with
    | call caller c =>
      rw [isOut, ih]
      rcases (begins_call s h now caller c).answered_or_waits with
        ⟨same, nothing_sent⟩ | ⟨st₀, address, same, -, loads⟩
      · have not_sent : sendsTo issuer (effectsAt s h ⟨now, .call caller c⟩) = false :=
          sendsTo_eq_false fun name target member => absurd member (nothing_sent name target)
        rw [not_sent, Bool.false_or, knownAfter, knownAfter, same]
      · by_cases asked : issuer = c.issuer
        · subst asked
          have sent := loads.isSent_eq
          rw [same] at sent
          exact sent.symm
        · have not_sent : sendsTo issuer (effectsAt s h ⟨now, .call caller c⟩) = false := by
            refine sendsTo_eq_false fun name target member => ?_
            rw [(loads.sent member).1]
            exact Ne.symm asked
          rw [not_sent, Bool.false_or, knownAfter_of_ne s h now (.call caller c) asked]
    | fetchEnd name outcome =>
      rw [isOut, ih]
      by_cases ended : name = issuer
      · subst ended
        obtain ⟨st', effects, state, -, ends⟩ := ends_fetchEnd s h now name outcome
        rw [if_pos rfl, knownAfter, state, IssuerState.isSent, ends.landed, Option.any_none]
      · rw [if_neg ended, knownAfter_of_ne s h now (.fetchEnd name outcome) (Ne.symm ended)]

/-- **Whoever waits for a fetch has asked:** for a key, with what an expired set had under its id at that
time, or for a refresh. -/
inductive Asked (issuer : String) (h : History) : Waiter → Prop
  | key {now : Number} {caller : Nat} {keyId : String} {before : History} {fallback : Option FoundKey}
      (began : ⟨now, .call caller (.key issuer keyId)⟩ :: before <:+ h)
      (held : ∀ found ∈ fallback, (knownAfter s before issuer).held? keyId = some found) :
    Asked issuer h ⟨caller, .key keyId fallback⟩
  | count {now : Number} {caller : Nat} {before : History}
      (began : ⟨now, .call caller (.refresh issuer)⟩ :: before <:+ h) :
    Asked issuer h ⟨caller, .count⟩

theorem Asked.later {s : Settings} {issuer : String} {h : History} {w : Waiter} (m : Moment)
    (asked : Asked s issuer h w) : Asked s issuer (m :: h) w := by
  cases asked with
  | key began held => exact .key (began.trans (List.suffix_cons m h)) held
  | count began => exact .count (began.trans (List.suffix_cons m h))

/-- A call that begins to wait has asked. -/
theorem asked_now (h : History) (now : Number) (caller : Nat) (c : Call) :
    Asked s c.issuer (⟨now, .call caller c⟩ :: h)
      ⟨caller, c.want s.ttl now (knownAfter s h c.issuer)⟩ := by
  cases c with
  | refresh issuer => exact .count (List.suffix_refl _)
  | key issuer keyId =>
    refine .key (List.suffix_refl _) ?_
    intro found fallback
    rw [IssuerState.fallback?] at fallback
    split at fallback
    · exact fallback
    · cases fallback

/-- **Everyone who waits has asked.** -/
theorem asked_of_waits (issuer : String) (h : History) {flight : Flight} {w : Waiter}
    (under_way : (knownAfter s h issuer).flight = some flight) (waits : w ∈ flight.waiters) :
    Asked s issuer h w := by
  induction h generalizing flight with
  | nil => cases under_way
  | cons m h ih =>
    obtain ⟨now, event⟩ := m
    by_cases about : issuer = event.issuer
    · cases event with
      | call caller c =>
        subst about
        rcases (begins_call s h now caller c).answered_or_waits with
          ⟨same, -⟩ | ⟨st₀, address, same, -, loads⟩
        · rw [knownAfter, same] at under_way
          exact (ih under_way waits).later _
        -- Whoever waits now has waited before, or is the caller of this very moment.
        · rcases loads.waits under_way waits with rfl | ⟨before, was_under_way, waited⟩
          · exact asked_now s h now caller c
          · rw [same] at was_under_way
            exact (ih was_under_way waited).later _
      | fetchEnd name outcome =>
        change issuer = name at about
        subst about
        obtain ⟨st', effects, state, -, ends⟩ := ends_fetchEnd s h now issuer outcome
        rw [knownAfter, state, ends.landed] at under_way
        cases under_way
    · rw [knownAfter_of_ne s h now event about] at under_way
      exact (ih under_way waits).later _

/-- **Nothing is known about issuers that are not registered.** -/
theorem knownAfter_of_stranger {issuer : String} (absent : s.address? issuer = none) (h : History) :
    knownAfter s h issuer = {} := by
  induction h with
  | nil => rfl
  | cons m h ih =>
    obtain ⟨now, event⟩ := m
    by_cases about : issuer = event.issuer
    · cases event with
      | call caller c =>
        subst about
        rcases (begins_call s h now caller c).answered_or_waits with
          ⟨same, -⟩ | ⟨st₀, address, same, there, loads⟩
        · rw [knownAfter, same]
          exact ih
        · rw [show c.issuer = (Event.call caller c).issuer from rfl, absent] at there
          cases there
      | fetchEnd name outcome =>
        change issuer = name at about
        subst about
        obtain ⟨st', effects, state, -, ends⟩ := ends_fetchEnd s h now issuer outcome
        have idle : ((stateAfter s h).issuer issuer).flight = none := congrArg IssuerState.flight ih
        obtain ⟨rfl, -⟩ := Prod.mk.inj (ends.eq_of_idle idle)
        rw [knownAfter, state]
        exact ih
    · rw [knownAfter_of_ne s h now event about]
      exact ih

end KeyCache

end BearerGate
