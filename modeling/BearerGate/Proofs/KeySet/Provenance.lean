import BearerGate.Proofs.KeySet.History

/-!
# Where the keys come from

After any history an issuer's set is what the **latest fetch that brought keys** brought, all of it and
nothing else, and dates from the end of that fetch (`cached_eq_latest?`).  `Traced` says of any moment
after any history what may become of sets and where the answers and the requests come from; `traced` is
the theorem.

Which fetches bring keys is said in terms of what can be seen: a request went out, it has ended with a
document, and the document has the shape of a key set.
-/

namespace BearerGate

namespace KeyCache

/-- What is cached: the time of the set, and its entries. -/
def IssuerState.cached (known : IssuerState) : Option (Number × List KeyEntry) :=
  known.keys.map fun set => (known.fetchedAt, set.entries)

/-- **What a moment brings** for an issuer, with its time: a request was out, and ends with keys. -/
def brought? (s : Settings) (issuer : String) (h : History) : Moment → Option (Number × List KeyEntry)
  | ⟨now, .fetchEnd name outcome⟩ =>
    if name = issuer ∧ isOut s issuer h = true then (outcome.published? s.importKey).map (now, ·) else none
  | ⟨_, .call _ _⟩ => none

/-- **What the latest fetch that brought keys has brought** for an issuer. -/
def latest? (s : Settings) (issuer : String) : History → Option (Number × List KeyEntry)
  | [] => none
  | m :: h => (brought? s issuer h m).or (latest? s issuer h)

/-- What `peek` is to show, given what was brought last. -/
def Peek.ofLatest : Option (Number × List KeyEntry) → Peek
  | none => ⟨[], none⟩
  | some (now, keys) => ⟨keys.map (·.keyId), some (.ofMillis now)⟩

variable (s : Settings)

/-! ### Sets -/

/-- Keys that are brought replace the set and its time. -/
theorem cached_of_brought {issuer : String} {h : History} {m : Moment} {now : Number}
    {keys : List KeyEntry} (brings : brought? s issuer h m = some (now, keys)) :
    (knownAfter s (m :: h) issuer).cached = some (now, keys) := by
  obtain ⟨time, event⟩ := m
  cases event with
  | call caller c => cases brings
  | fetchEnd name outcome =>
    rw [brought?] at brings
    split at brings
    · rename_i out
      obtain ⟨rfl, out⟩ := out
      obtain ⟨published_keys, published, same⟩ := Option.map_eq_some_iff.1 brings
      cases same
      rw [isOut_eq, knownAfter, IssuerState.isSent] at out
      obtain ⟨st', effects, state, -, ends⟩ := ends_fetchEnd s h now name outcome
      rw [knownAfter, state]
      cases ends with
      | idle idle =>
        rw [idle] at out
        cases out
      | brings under_way sent published' sends answers =>
        rw [published] at published'
        cases published'
        rw [State.issuer_setIssuer_self]
        rfl
      | fails under_way nothing known sends answers =>
        rw [under_way, Option.any_some, Bool.not_eq_true'] at out
        rw [nothing out] at published
        cases published
    · cases brings

/-- **Where nothing is brought, the set stays,** and its time. -/
theorem kept_of_not_brought {issuer : String} {h : History} {m : Moment}
    (nothing : brought? s issuer h m = none) :
    (knownAfter s (m :: h) issuer).keys = (knownAfter s h issuer).keys ∧
      (knownAfter s (m :: h) issuer).fetchedAt = (knownAfter s h issuer).fetchedAt := by
  obtain ⟨now, event⟩ := m
  cases event with
  | call caller c => exact kept_of_call s h now caller c issuer
  | fetchEnd name outcome =>
    by_cases about : issuer = name
    · subst about
      obtain ⟨st', effects, state, -, ends⟩ := ends_fetchEnd s h now issuer outcome
      rw [brought?, isOut_eq, knownAfter, IssuerState.isSent] at nothing
      rw [knownAfter, state]
      cases ends with
      | idle idle => exact ⟨rfl, rfl⟩
      | brings under_way sent published sends answers =>
        rw [under_way, Option.any_some, sent, published] at nothing
        simp at nothing
      | fails under_way _ known sends answers =>
        rw [known, State.issuer_setIssuer_self]
        exact ⟨rfl, rfl⟩
    · rw [knownAfter_of_ne s h now (.fetchEnd name outcome) about]
      exact ⟨rfl, rfl⟩

/-- **An issuer's set is what was brought last,** from the time when it was brought. -/
theorem cached_eq_latest? (issuer : String) (h : History) :
    (knownAfter s h issuer).cached = latest? s issuer h := by
  induction h with
  | nil => rfl
  | cons m h ih =>
    rw [latest?]
    cases brings : brought? s issuer h m with
    | none =>
      obtain ⟨keys, time⟩ := kept_of_not_brought s brings
      rw [Option.none_or, ← ih, IssuerState.cached, keys, time]
      rfl
    | some brought => exact cached_of_brought s brings

/-- `peek` shows what is cached. -/
theorem peek_eq (st : State) (issuer : String) :
    peek s st issuer = (s.address? issuer).map fun _ => .ofLatest (st.issuer issuer).cached := by
  simp only [peek, IssuerState.cached]
  cases (st.issuer issuer).keys <;> rfl

/-! ### Answers -/

/-- **Where a key in an answer comes from:** its caller asked for its key id, and it was in the issuer's
set when that call began, or it is in the set that is brought by the very fetch whose end is the answer. -/
inductive Origin (h : History) (m : Moment) (caller : Nat) (found : FoundKey) : Prop
  | held {now : Number} {issuer keyId : String} {before : History}
      (began : ⟨now, .call caller (.key issuer keyId)⟩ :: before <:+ m :: h)
      (same : found.entry.keyId = keyId)
      (held : (knownAfter s before issuer).held? keyId = some found)
  | fetched {now : Number} {issuer keyId : String} {before : History}
      (began : ⟨now, .call caller (.key issuer keyId)⟩ :: before <:+ h)
      (same : found.entry.keyId = keyId)
      (brought : (brought? s issuer h m).isSome = true)
      (held : (knownAfter s (m :: h) issuer).held? keyId = some found)

/-- A waiter that hears of a key has asked for it, and hears of the key that was brought or of the one that
it falls back on. -/
theorem origin_of_waiter {h : History} {now : Number} {issuer : String} {outcome : FetchOutcome}
    {st' : State} {effects : List TimedEffect} {caller : Nat} {found : FoundKey}
    (state : stateAfter s (⟨now, .fetchEnd issuer outcome⟩ :: h) = st')
    (ends : Ends s now (stateAfter s h) issuer outcome (st', effects))
    (answer : (caller, .key (some found)) ∈ effects.filterMap (·.effect.answer?)) :
    Origin s h ⟨now, .fetchEnd issuer outcome⟩ caller found := by
  cases ends with
  | idle idle => cases answer
  | brings under_way sent published sends answers =>
    rw [answers] at answer
    obtain ⟨w, waits, heard⟩ := List.mem_map.1 answer
    have out : isOut s issuer h = true := by
      rw [isOut_eq, knownAfter, IssuerState.isSent, under_way, Option.any_some, sent]
      rfl
    have brings : (brought? s issuer h ⟨now, .fetchEnd issuer outcome⟩).isSome = true := by
      rw [brought?, if_pos ⟨rfl, out⟩, published]
      rfl
    cases asked_of_waits s issuer h under_way waits with
    | count began => cases heard
    | key began held =>
      simp only [answerTo, Prod.mk.injEq, CallAnswer.key.injEq] at heard
      obtain ⟨rfl, there⟩ := heard
      refine .fetched began (keyId_of_find? there) brings ?_
      rw [knownAfter, state, State.issuer_setIssuer_self]
      exact there
  | fails under_way nothing known sends answers =>
    rw [answers] at answer
    obtain ⟨w, waits, heard⟩ := List.mem_map.1 answer
    cases asked_of_waits s issuer h under_way waits with
    | count began => cases heard
    | @key _ _ _ _ fallback began held =>
      cases fallback with
      | none => cases heard
      | some old =>
        simp only [answerTo, Prod.mk.injEq, CallAnswer.key.injEq, Option.some.injEq] at heard
        obtain ⟨rfl, rfl⟩ := heard
        -- The waiter was given what it falls back on when its call began.
        have there := held old rfl
        exact .held (began.trans (List.suffix_cons _ h)) (keyId_of_held? there) there

/-- **Every key in an answer has an origin.** -/
theorem origin_of_answer (h : History) (m : Moment) {caller : Nat} {found : FoundKey}
    (answer : .answer caller (.key (some found)) ∈ effectsAt s h m) : Origin s h m caller found := by
  obtain ⟨now, event⟩ := m
  cases event with
  | fetchEnd issuer outcome =>
    obtain ⟨st', effects, state, said, ends⟩ := ends_fetchEnd s h now issuer outcome
    rw [said] at answer
    obtain ⟨e, member, is_answer⟩ := List.mem_map.1 answer
    refine origin_of_waiter s state ends (List.mem_filterMap.2 ⟨e, member, ?_⟩)
    rw [is_answer]
    rfl
  | call number c =>
    have begins := begins_call s h now number c
    generalize stateAfter s (⟨now, .call number c⟩ :: h) = st' at begins
    generalize effectsAt s h ⟨now, .call number c⟩ = effects at answer begins
    -- Of the calls that are answered at once, only a hit is answered with a key.
    cases begins with
    | stranger absent => simp at answer
    | hit there young held =>
      simp only [List.mem_singleton, Effect.answer.injEq, CallAnswer.key.injEq, Option.some.injEq] at answer
      obtain ⟨rfl, rfl⟩ := answer
      exact .held (List.suffix_refl _) (keyId_of_held? held) held
    | cooling there young missing idle cooldown => simp at answer
    | searches there miss free loads => exact absurd answer (loads.no_answer _ _)
    | strangerRefresh absent => simp at answer
    | refreshes there loads => exact absurd answer (loads.no_answer _ _)

/-! ### Requests -/

/-- **Requests go to the registered address** of the issuer that a call is about. -/
theorem registered_of_send (h : History) (m : Moment) {issuer address : String}
    (sent : .send issuer address ∈ effectsAt s h m) :
    s.address? issuer = some address ∧ ∃ caller c, m.event = .call caller c ∧ c.issuer = issuer := by
  obtain ⟨now, event⟩ := m
  cases event with
  | call caller c =>
    rcases (begins_call s h now caller c).answered_or_waits with
      ⟨-, nothing_sent⟩ | ⟨st₀, address', -, there, loads⟩
    · exact absurd sent (nothing_sent issuer address)
    · obtain ⟨rfl, rfl⟩ := loads.sent sent
      exact ⟨there, caller, c, rfl, rfl⟩
  | fetchEnd name outcome =>
    obtain ⟨st', effects, -, said, ends⟩ := ends_fetchEnd s h now name outcome
    have nothing_sent : effects.filterMap (·.effect.sent?) = [] := by
      cases ends with
      | idle idle => rfl
      | brings under_way sent published sends answers => exact sends
      | fails under_way nothing known sends answers => exact sends
    rw [said] at sent
    obtain ⟨e, member, is_send⟩ := List.mem_map.1 sent
    have := List.filterMap_eq_nil_iff.1 nothing_sent e member
    rw [is_send] at this
    cases this

/-- **What a stranger meets:** nothing changes, nothing is sent. -/
theorem stateAfter_of_stranger {h : History} {m : Moment} (absent : s.address? m.event.issuer = none) :
    stateAfter s (m :: h) = stateAfter s h ∧
      (∀ caller keyId, m.event = .call caller (.key m.event.issuer keyId) →
        ∃ e, effectsAt s h m = [.log e, .answer caller (.key none)]) ∧
      (∀ caller, m.event = .call caller (.refresh m.event.issuer) →
        effectsAt s h m = [.answer caller (.unregistered m.event.issuer)]) := by
  obtain ⟨now, event⟩ := m
  cases event with
  | fetchEnd name outcome =>
    have known := knownAfter_of_stranger s absent h
    have idle : ((stateAfter s h).issuer name).flight = none := congrArg IssuerState.flight known
    obtain ⟨st', effects, state, -, ends⟩ := ends_fetchEnd s h now name outcome
    refine ⟨?_, by simp, by simp⟩
    rw [state]
    exact (Prod.mk.inj (ends.eq_of_idle idle)).1
  | call caller c =>
    have begins := begins_call s h now caller c
    change s.address? c.issuer = none at absent
    generalize stateAfter s (⟨now, .call caller c⟩ :: h) = st' at begins ⊢
    generalize effectsAt s h ⟨now, .call caller c⟩ = effects at begins ⊢
    cases begins with
    | stranger _ =>
      refine ⟨rfl, ?_, by simp⟩
      intro caller' keyId' same
      cases same
      exact ⟨_, rfl⟩
    | hit there young held => exact absurd (there.symm.trans absent) (by simp)
    | cooling there young missing idle cooldown => exact absurd (there.symm.trans absent) (by simp)
    | searches there miss free loads => exact absurd (there.symm.trans absent) (by simp)
    | strangerRefresh _ =>
      refine ⟨rfl, by simp, ?_⟩
      intro caller' same
      cases same
      rfl
    | refreshes there loads => exact absurd (there.symm.trans absent) (by simp)

/-! ### All of it -/

/-- **What may happen at a moment** after a history. -/
structure Traced (h : History) (m : Moment) : Prop where
  /-- The issuer's set is replaced as a whole, by what is brought, -/
  replaced : ∀ issuer now keys, brought? s issuer h m = some (now, keys) →
    (knownAfter s (m :: h) issuer).cached = some (now, keys)
  /-- or it stays, with its time and with what can be seen of it. -/
  kept : ∀ issuer, brought? s issuer h m = none →
    (knownAfter s (m :: h) issuer).keys = (knownAfter s h issuer).keys ∧
    (knownAfter s (m :: h) issuer).fetchedAt = (knownAfter s h issuer).fetchedAt ∧
    peek s (stateAfter s (m :: h)) issuer = peek s (stateAfter s h) issuer
  answers : ∀ caller found, .answer caller (.key (some found)) ∈ effectsAt s h m →
    Origin s h m caller found
  requests : ∀ issuer address, .send issuer address ∈ effectsAt s h m →
    s.address? issuer = some address ∧ ∃ caller c, m.event = .call caller c ∧ c.issuer = issuer
  others : ∀ issuer, issuer ≠ m.event.issuer → knownAfter s (m :: h) issuer = knownAfter s h issuer
  strangers : s.address? m.event.issuer = none →
    stateAfter s (m :: h) = stateAfter s h ∧
    (∀ caller keyId, m.event = .call caller (.key m.event.issuer keyId) →
      ∃ e, effectsAt s h m = [.log e, .answer caller (.key none)]) ∧
    (∀ caller, m.event = .call caller (.refresh m.event.issuer) →
      effectsAt s h m = [.answer caller (.unregistered m.event.issuer)])

/-- **Provenance.**  After any history, what is cached of an issuer and what `peek` shows of it is what was
brought last; and whatever happens next is traced. -/
theorem traced (h : History) :
    (∀ issuer, (knownAfter s h issuer).cached = latest? s issuer h ∧
      peek s (stateAfter s h) issuer =
        (s.address? issuer).map fun _ => .ofLatest (latest? s issuer h)) ∧
    ∀ m, Traced s h m := by
  refine ⟨?_, ?_⟩
  · intro issuer
    have cached := cached_eq_latest? s issuer h
    refine ⟨cached, ?_⟩
    rw [peek_eq, ← cached]
    rfl
  · intro m
    refine ⟨fun issuer now keys => cached_of_brought s, ?_, fun caller found => origin_of_answer s h m,
      fun issuer address => registered_of_send s h m, ?_, stateAfter_of_stranger s⟩
    · intro issuer nothing
      obtain ⟨keys, time⟩ := kept_of_not_brought s nothing
      refine ⟨keys, time, ?_⟩
      rw [peek_eq, peek_eq]
      change (s.address? issuer).map (fun _ => Peek.ofLatest (knownAfter s (m :: h) issuer).cached) =
        (s.address? issuer).map fun _ => Peek.ofLatest (knownAfter s h issuer).cached
      rw [IssuerState.cached, IssuerState.cached, keys, time]
    · exact fun issuer ne => knownAfter_of_ne s h m.now m.event ne

end KeyCache

end BearerGate
