import BearerGate.Proofs.KeySet.Reply

/-!
# One fetch at a time

However calls and ends of fetches follow each other, an issuer never has more than one request out
(`requestsOut_eq`): a call that needs a fetch joins the one under way, whatever the cooldown says, and begins
one only where there is none.  `SingleFlight` says of the moment after any history what becomes of a call
and of everyone who waits; `singleFlight` is the theorem.

Requests out are counted from what can be seen, requests that are sent and fetches that end, and not from
what the cache keeps about itself.
-/

namespace BearerGate

namespace KeyCache

/-! ### Requests out -/

/-- How many of some effects are requests to an issuer. -/
def requestsTo (issuer : String) (effects : List Effect) : Nat :=
  (effects.filterMap Effect.sent?).countP (·.1 = issuer)

/-- **How many requests to an issuer are out:** sent, and their fetch has not ended. -/
def requestsOut (s : Settings) (issuer : String) : History → Nat
  | [] => 0
  | ⟨now, .call caller c⟩ :: h =>
    requestsOut s issuer h + requestsTo issuer (effectsAt s h ⟨now, .call caller c⟩)
  | ⟨_, .fetchEnd name _⟩ :: h => requestsOut s issuer h - if name = issuer then 1 else 0

/-- A fetch that could be sent is under way afterwards if one was before or one request goes out; never
both. -/
theorem Loads.requestsTo_eq {s : Settings} {now : Number} {st : State} {issuer address : String}
    {w : Waiter} {result : State × List Effect} (loads : Loads s now st issuer address w result) :
    (result.1.issuer issuer).isSent.toNat = (st.issuer issuer).isSent.toNat + requestsTo issuer result.2 ∧
      ∀ other, other ≠ issuer → requestsTo other result.2 = 0 := by
  cases loads with
  | joins under_way =>
    refine ⟨?_, fun other ne => rfl⟩
    rw [State.issuer_setIssuer_self, IssuerState.isSent, IssuerState.isSent, under_way]
    rfl
  | sends idle can =>
    constructor
    · rw [State.issuer_setIssuer_self, IssuerState.isSent, IssuerState.isSent, idle]
      simp [IssuerState.launched, requestsTo, Effect.sent?]
    · intro other ne
      simp [requestsTo, Effect.sent?, ne.symm]
  | fails idle cannot =>
    refine ⟨?_, fun other ne => rfl⟩
    rw [State.issuer_countFailure, State.issuer_setIssuer_self, IssuerState.isSent, IssuerState.isSent, idle]
    rfl

section Loads

variable {s : Settings} {now : Number} {st : State} {issuer address : String} {w : Waiter}
  {result : State × List Effect} (loads : Loads s now st issuer address w result)
include loads

/-- After coming to wait there is a fetch under way. -/
theorem Loads.flight_ne_none : (result.1.issuer issuer).flight ≠ none := by
  intro idle
  have waiters := loads.waiters
  rw [idle] at waiters
  cases waiters

/-- Whoever joins a fetch does so in silence. -/
theorem Loads.silent {flight : Flight} (under_way : (st.issuer issuer).flight = some flight) :
    result.2 = [] := by
  cases loads with
  | joins _ => rfl
  | sends idle can => exact absurd (under_way.symm.trans idle) (by simp)
  | fails idle cannot => exact absurd (under_way.symm.trans idle) (by simp)

/-- Whoever finds none under way sends a request, if any can be sent. -/
theorem Loads.requests (idle : (st.issuer issuer).flight = none) (can : s.canFetch = true) :
    result.2 = [.send issuer address] := by
  cases loads with
  | joins under_way => exact absurd (under_way.symm.trans idle) (by simp)
  | sends _ _ => rfl
  | fails _ cannot => exact absurd (can.symm.trans cannot) (by simp)

end Loads

variable (s : Settings)

/-- **At most one request is out:** one if a fetch that could be sent is under way, and else none. -/
theorem requestsOut_eq (issuer : String) (h : History) :
    requestsOut s issuer h = (knownAfter s h issuer).isSent.toNat := by
  induction h with
  | nil => rfl
  | cons m h ih =>
    obtain ⟨now, event⟩ := m
    cases event with
    | call caller c =>
      rw [requestsOut, ih]
      rcases settled_or_waits s h now caller c with settled | waits
      · have none_sent : requestsTo issuer (effectsAt s h ⟨now, .call caller c⟩) = 0 := by
          rw [requestsTo, settled.requests, List.countP_nil]
        rw [none_sent, knownAfter, knownAfter, settled.known, Nat.add_zero]
      · obtain ⟨st₀, address, same, -, -, loads⟩ := waits.loads
        obtain ⟨own, others⟩ := loads.requestsTo_eq
        by_cases asked : issuer = c.issuer
        · subst asked
          rw [same] at own
          exact own.symm
        · rw [others issuer asked, Nat.add_zero, knownAfter_of_ne s h now (.call caller c) asked]
    | fetchEnd name outcome =>
      rw [requestsOut, ih]
      by_cases ended : name = issuer
      · subst ended
        obtain ⟨st', effects, state, -, ends⟩ := ends_fetchEnd s h now name outcome
        have landed : (knownAfter s (⟨now, .fetchEnd name outcome⟩ :: h) name).isSent = false := by
          rw [knownAfter, state, IssuerState.isSent, ends.landed, Option.any_none]
        rw [landed, if_pos rfl]
        cases (knownAfter s h name).isSent <;> rfl
      · rw [if_neg ended, Nat.sub_zero, knownAfter_of_ne s h now (.fetchEnd name outcome) (Ne.symm ended)]

/-! ### Calls that need a fetch -/

/-- A call that no unexpired set answers. -/
def Call.isMiss (ttl now : Number) (known : IssuerState) : Call → Bool
  | key _ keyId => !(known.isYoung ttl now && (known.held? keyId).isSome)
  | refresh _ => true

/-- A search that the cooldown spares a fetch: the set is unexpired, and the last fetch began less than the
cooldown ago. -/
def Call.isSpared (s : Settings) (now : Number) (known : IssuerState) : Call → Bool
  | key _ _ => known.isYoung s.ttl now && known.inCooldown s.cooldown now
  | refresh _ => false

/-- **A call that needs a fetch comes to wait for one.** -/
theorem loads_of_miss {h : History} {now : Number} (caller : Nat) {c : Call} {address : String}
    (there : s.address? c.issuer = some address)
    (miss : c.isMiss s.ttl now (knownAfter s h c.issuer) = true)
    (free : (knownAfter s h c.issuer).flight = none → c.isSpared s now (knownAfter s h c.issuer) = false) :
    ∃ st₀, (∀ name, st₀.issuer name = (stateAfter s h).issuer name) ∧
      Loads s now st₀ c.issuer address ⟨caller, c.want s.ttl now (knownAfter s h c.issuer)⟩
        (stateAfter s (⟨now, .call caller c⟩ :: h), effectsAt s h ⟨now, .call caller c⟩) := by
  have begins := begins_call s h now caller c
  generalize stateAfter s (⟨now, .call caller c⟩ :: h) = st' at begins ⊢
  generalize effectsAt s h ⟨now, .call caller c⟩ = effects at begins ⊢
  cases begins with
  | stranger absent => exact absurd (there.symm.trans absent) (by simp)
  | hit there' young held =>
    change (knownAfter s h _).isYoung _ _ = true at young
    change (knownAfter s h _).held? _ = _ at held
    rw [Call.issuer, Call.isMiss, young, held] at miss
    cases miss
  | cooling there' young missing idle cooldown =>
    change (knownAfter s h _).isYoung _ _ = true at young
    change (knownAfter s h _).inCooldown _ _ = true at cooldown
    have spared := free idle
    rw [Call.issuer, Call.isSpared, young, cooldown] at spared
    cases spared
  | searches there' miss' free' loads =>
    cases there.symm.trans there'
    exact ⟨(stateAfter s h).countMiss, fun _ => rfl, loads⟩
  | strangerRefresh absent => exact absurd (there.symm.trans absent) (by simp)
  | refreshes there' loads =>
    cases there.symm.trans there'
    exact ⟨stateAfter s h, fun _ => rfl, loads⟩

/-! ### All of it -/

/-- **What single flight means** at any moment after a history. -/
structure SingleFlight (h : History) : Prop where
  one : ∀ issuer, requestsOut s issuer h ≤ 1
  /-- A key in an unexpired set is answered at once, whatever is under way, and all who wait go on waiting. -/
  hit : ∀ now caller issuer keyId found, (knownAfter s h issuer).isYoung s.ttl now = true →
    (knownAfter s h issuer).held? keyId = some found →
    effectsAt s h ⟨now, .call caller (.key issuer keyId)⟩ = [.answer caller (.key (some found))] ∧
    ∀ name, knownAfter s (⟨now, .call caller (.key issuer keyId)⟩ :: h) name = knownAfter s h name
  /-- Any other call, while a fetch is under way, joins it in silence, cooldown or not. -/
  joins : ∀ now caller c flight, s.address? c.issuer ≠ none →
    c.isMiss s.ttl now (knownAfter s h c.issuer) = true → (knownAfter s h c.issuer).flight = some flight →
    effectsAt s h ⟨now, .call caller c⟩ = [] ∧
    waiting s c.issuer (⟨now, .call caller c⟩ :: h) = waiting s c.issuer h ++ [⟨now, caller, c, h⟩]
  /-- While none is under way, it begins one for itself, unless the cooldown spares it. -/
  begins : ∀ now caller c address, s.address? c.issuer = some address →
    c.isMiss s.ttl now (knownAfter s h c.issuer) = true → (knownAfter s h c.issuer).flight = none →
    c.isSpared s now (knownAfter s h c.issuer) = false →
    (s.canFetch = true → effectsAt s h ⟨now, .call caller c⟩ = [.send c.issuer address]) ∧
    (knownAfter s (⟨now, .call caller c⟩ :: h) c.issuer).flight ≠ none ∧
    waiting s c.issuer (⟨now, .call caller c⟩ :: h) = [⟨now, caller, c, h⟩]
  /-- When a fetch brings keys, everyone who waits hears of the new set, -/
  succeeds : ∀ now issuer outcome keys,
    brought? s issuer h ⟨now, .fetchEnd issuer outcome⟩ = some (now, keys) →
    ∃ set, set.entries = keys ∧
      (knownAfter s (⟨now, .fetchEnd issuer outcome⟩ :: h) issuer).keys = some set ∧
      repliesAt s h ⟨now, .fetchEnd issuer outcome⟩ =
        (waiting s issuer h).map fun p => (p, answerTo (.ok set) (p.want s))
  /-- and when it brings nothing, everyone hears that the keys are unavailable, or falls back. -/
  fails : ∀ now issuer outcome, brought? s issuer h ⟨now, .fetchEnd issuer outcome⟩ = none →
    ∃ cause, cause.reason = .keySetUnavailable ∧
      repliesAt s h ⟨now, .fetchEnd issuer outcome⟩ =
        (waiting s issuer h).map fun p => (p, answerTo (.error cause) (p.want s))
  /-- Either way no fetch of the issuer is under way any more. -/
  ends : ∀ now issuer outcome,
    (knownAfter s (⟨now, .fetchEnd issuer outcome⟩ :: h) issuer).flight = none ∧
    requestsOut s issuer (⟨now, .fetchEnd issuer outcome⟩ :: h) = 0
  /-- Every answer is a reply to the one who has asked, -/
  addressed : ∀ m, (repliesAt s h m).map (fun r => (r.1.caller, r.2)) = answersAt s h m
  /-- and whoever has called waits, or has heard. -/
  complete : ∀ p : Inquiry, p.moment :: p.before <:+ h →
    p ∈ waiting s p.call.issuer h ∨ ∃ m b a, m :: b <:+ h ∧ (p, a) ∈ repliesAt s b m

/-- **Single flight,** after any history. -/
theorem singleFlight (h : History) : SingleFlight s h where
  one issuer := by
    rw [requestsOut_eq]
    exact Bool.toNat_le _
  hit now caller issuer keyId found young held := effectsAt_of_hit s caller young held
  joins now caller c flight registered miss under_way := by
    obtain ⟨address, there⟩ := Option.ne_none_iff_exists'.1 registered
    obtain ⟨st₀, same, loads⟩ := loads_of_miss s caller there miss
      fun idle => absurd (under_way.symm.trans idle) (by simp)
    have still : (st₀.issuer c.issuer).flight = some flight := by
      rw [same]
      exact under_way
    have silent : effectsAt s h ⟨now, .call caller c⟩ = [] := loads.silent still
    exact ⟨silent, waiting_call_of_silent loads.answers⟩
  begins now caller c address there miss idle unspared := by
    obtain ⟨st₀, same, loads⟩ := loads_of_miss s caller there miss fun _ => unspared
    have still : (st₀.issuer c.issuer).flight = none := by
      rw [same]
      exact idle
    refine ⟨loads.requests still, loads.flight_ne_none, ?_⟩
    rw [waiting_call_of_silent loads.answers, (waiting_eq_nil_iff s c.issuer h).2 idle]
    rfl
  succeeds now issuer outcome keys brought := by
    obtain ⟨result, heard, replies⟩ := repliesAt_fetchEnd s h now issuer outcome
    cases heard with
    | brings brought' held =>
      cases brought.symm.trans brought'
      exact ⟨_, rfl, held, replies⟩
    | fails nothing unavailable => exact absurd (brought.symm.trans nothing) (by simp)
  fails now issuer outcome nothing := by
    obtain ⟨result, heard, replies⟩ := repliesAt_fetchEnd s h now issuer outcome
    cases heard with
    | brings brought held => exact absurd (nothing.symm.trans brought) (by simp)
    | fails _ unavailable => exact ⟨_, unavailable.reason, replies⟩
  ends now issuer outcome := by
    have idle := (waiting_eq_nil_iff s issuer (⟨now, .fetchEnd issuer outcome⟩ :: h)).1
      (waiting_fetchEnd_self outcome)
    refine ⟨idle, ?_⟩
    rw [requestsOut_eq, IssuerState.isSent, idle]
    rfl
  addressed := map_repliesAt s h
  complete := waiting_or_replied s

end KeyCache

end BearerGate
