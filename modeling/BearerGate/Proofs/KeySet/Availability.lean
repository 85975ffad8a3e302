import BearerGate.Proofs.KeySet.Reply

/-!
# Keys stay available during an outage

A key that is held stays held through any number of failed fetches, until a document comes that does not
publish it (`held_of_stillPublished`).  Whoever searches for it while it is held gets an entry, unless the
fetch that he waits for brings such a document; and an entry of an expired set is a last resort, given only
after the fetch that he has waited for failed.  `Obtainable` says so of one search, `obtainable` of all.

To tell an entry of the old set from the same key brought anew, sets are compared by the fetch that
brought them: fetches are numbered in the order of their beginning (`numbered`), so what is brought later has
a greater number than what was held before.
-/

namespace BearerGate

namespace KeyCache

/-! ### The numbers of fetches -/

/-- The numbers in use are at most a last one, and a fetch has a greater number than the set that is held
while it is under way. -/
structure IssuerState.Numbered (known : IssuerState) (last : Nat) : Prop where
  set : ∀ set, known.keys = some set → set.generation ≤ last
  flight : ∀ flight, known.flight = some flight → flight.number ≤ last
  order : ∀ set flight, known.keys = some set → known.flight = some flight →
    set.generation < flight.number

theorem IssuerState.Numbered.mono {known : IssuerState} {last last' : Nat} (numbered : known.Numbered last)
    (le : last ≤ last') : known.Numbered last' where
  set set held := Nat.le_trans (numbered.set set held) le
  flight flight under_way := Nat.le_trans (numbered.flight flight under_way) le
  order := numbered.order

/-- An issuer without a fetch under way is numbered by its set alone. -/
theorem IssuerState.Numbered.of_idle {known : IssuerState} {last : Nat} (idle : known.flight = none)
    (set : ∀ set, known.keys = some set → set.generation ≤ last) : known.Numbered last where
  set := set
  flight flight under_way := absurd (idle.symm.trans under_way) (by simp)
  order set flight held under_way := absurd (idle.symm.trans under_way) (by simp)

/-- A fetch that begins gets the next number. -/
theorem IssuerState.Numbered.launched {known : IssuerState} {last : Nat} (numbered : known.Numbered last)
    (now : Number) (doomed : Bool) (w : Waiter) :
    (known.launched now (last + 1) doomed w).Numbered (last + 1) where
  set set held := Nat.le_succ_of_le (numbered.set set held)
  flight flight same := by
    cases same
    exact Nat.le_refl _
  order set flight held same := by
    cases same
    exact Nat.lt_succ_of_le (numbered.set set held)

/-- One that is joined keeps its own. -/
theorem IssuerState.Numbered.joined {known : IssuerState} {last : Nat} (numbered : known.Numbered last)
    {flight : Flight} (under_way : known.flight = some flight) (w : Waiter) :
    (known.joined flight w).Numbered last where
  set := numbered.set
  flight flight' same := by
    cases same
    exact numbered.flight flight under_way
  order set flight' held same := by
    cases same
    exact numbered.order set flight held under_way

/-- The end of a fetch gives no new number. -/
theorem fetches_settle (s : Settings) (now : Number) (st : State) (issuer : String)
    (outcome : FetchOutcome) :
    (settle s now st issuer outcome).1.stats.fetches = st.stats.fetches := by
  unfold settle
  split
  · rfl
  · unfold conclude
    split
    · rfl
    · cases outcome with
      | failed => rfl
      | document d =>
        cases read : keyRecords d with
        | error faults => simp only [read]; rfl
        | ok records => simp only [read]; rfl

/-- Coming to wait keeps the numbers in order. -/
theorem Loads.numbered {s : Settings} {now : Number} {st : State} {issuer address : String} {w : Waiter}
    {result : State × List Effect} (loads : Loads s now st issuer address w result)
    (before : (st.issuer issuer).Numbered st.stats.fetches) :
    (result.1.issuer issuer).Numbered result.1.stats.fetches ∧
      st.stats.fetches ≤ result.1.stats.fetches := by
  cases loads with
  | joins under_way =>
    rw [State.issuer_setIssuer_self]
    exact ⟨before.joined under_way w, Nat.le_refl _⟩
  | sends idle can =>
    rw [State.issuer_setIssuer_self]
    exact ⟨before.launched now false w, Nat.le_succ _⟩
  | fails idle cannot =>
    rw [State.issuer_countFailure, State.issuer_setIssuer_self]
    exact ⟨before.launched now true w, Nat.le_succ _⟩

variable (s : Settings)

/-- **Fetches are numbered in the order of their beginning.** -/
theorem numbered (h : History) (issuer : String) :
    (knownAfter s h issuer).Numbered (stateAfter s h).stats.fetches := by
  induction h generalizing issuer with
  | nil => exact .of_idle rfl fun set held => by cases held
  | cons m h ih =>
    obtain ⟨now, event⟩ := m
    cases event with
    | call caller c =>
      rcases settled_or_waits s h now caller c with settled | waits
      · rw [knownAfter, settled.known, settled.fetches]
        exact ih issuer
      · obtain ⟨st₀, address, same, fetches, -, loads⟩ := waits.loads
        have before : (st₀.issuer c.issuer).Numbered st₀.stats.fetches := by
          rw [same, fetches]
          exact ih c.issuer
        obtain ⟨asked, le⟩ := loads.numbered before
        by_cases about : issuer = c.issuer
        · subst about
          exact asked
        · rw [knownAfter_of_ne s h now (.call caller c) about]
          rw [fetches] at le
          exact (ih issuer).mono le
    | fetchEnd name outcome =>
      have fetches : (stateAfter s (⟨now, .fetchEnd name outcome⟩ :: h)).stats.fetches =
          (stateAfter s h).stats.fetches := fetches_settle s now (stateAfter s h) name outcome
      rw [fetches]
      by_cases about : issuer = name
      · subst about
        obtain ⟨st', effects, state, -, ends⟩ := ends_fetchEnd s h now issuer outcome
        refine .of_idle (by rw [knownAfter, state, ends.landed]) ?_
        intro set held
        rw [knownAfter, state] at held
        cases ends with
        | idle idle => exact (ih issuer).set set held
        | brings under_way sent published sends answers =>
          rw [State.issuer_setIssuer_self] at held
          cases held
          exact (ih issuer).flight _ under_way
        | fails under_way nothing known sends answers =>
          rw [known, State.issuer_setIssuer_self] at held
          exact (ih issuer).set set held
      · rw [knownAfter_of_ne s h now (.fetchEnd name outcome) about]
        exact ih issuer

/-- **What is brought later is not what was held before:** the set that a fetch brings has a greater number
than the set that was held when it ended. -/
theorem generation_lt {h : History} {now : Number} {issuer : String} {outcome : FetchOutcome}
    {old new : KeySet} (before : (knownAfter s h issuer).keys = some old)
    (brought : (brought? s issuer h ⟨now, .fetchEnd issuer outcome⟩).isSome = true)
    (after : (knownAfter s (⟨now, .fetchEnd issuer outcome⟩ :: h) issuer).keys = some new) :
    old.generation < new.generation := by
  obtain ⟨st', effects, state, -, ends⟩ := ends_fetchEnd s h now issuer outcome
  rw [knownAfter, state] at after
  cases ends with
  | idle idle =>
    rw [brought?_of_idle s idle now outcome] at brought
    cases brought
  | brings under_way sent published sends answers =>
    rw [State.issuer_setIssuer_self] at after
    cases after
    exact (numbered s h issuer).order old _ before under_way
  | @fails flight cause _ _ under_way nothing known sends answers =>
    rw [brought?_of_flight s under_way now outcome] at brought
    cases sent : flight.doomed with
    | true =>
      rw [sent] at brought
      cases brought
    | false =>
      rw [sent, nothing sent] at brought
      cases brought

/-! ### Keys that stay held -/

/-- A key is found in a set if there is an entry under its id. -/
theorem isSome_find? (set : KeySet) (keyId : String) :
    (set.find? keyId).isSome = hasKeyId set.entries keyId := by
  rw [KeySet.find?, Option.isSome_map, hasKeyId, List.isSome_find?]

/-- **Since a history, every document that came has published a key id.** -/
def StillPublished (issuer keyId : String) (h later : History) : Prop :=
  ∀ m before now keys, m :: before <:+ later → h <:+ before →
    brought? s issuer before m = some (now, keys) → hasKeyId keys keyId = true

namespace StillPublished

variable {s} {issuer keyId : String} {h later : History}

theorem refl : StillPublished s issuer keyId h h := by
  intro m before now keys part since _
  have shorter := (part.trans since).length_le
  exact absurd shorter (Nat.not_succ_le_self _)

/-- A moment that brings a document without the key id is the only one to end it. -/
theorem cons {m : Moment} (so_far : StillPublished s issuer keyId h later)
    (moment : ∀ now keys, brought? s issuer later m = some (now, keys) → hasKeyId keys keyId = true) :
    StillPublished s issuer keyId h (m :: later) := by
  intro m' before now keys part since brought
  rcases List.suffix_cons_iff.1 part with same | earlier
  · cases same
    exact moment now keys brought
  · exact so_far m' before now keys earlier since brought

theorem of_cons {m : Moment} (all : StillPublished s issuer keyId h (m :: later)) :
    StillPublished s issuer keyId h later :=
  fun m' before now keys part => all m' before now keys (part.trans (List.suffix_cons m later))

end StillPublished

/-- What a document that publishes a key id leaves is held under it. -/
theorem held_of_brought {issuer keyId : String} {h : History} {m : Moment} {now : Number}
    {keys : List KeyEntry} (brought : brought? s issuer h m = some (now, keys))
    (published : hasKeyId keys keyId = true) :
    ((knownAfter s (m :: h) issuer).held? keyId).isSome = true := by
  have cached := cached_of_brought s brought
  obtain ⟨set, held, same⟩ := Option.map_eq_some_iff.1 cached
  cases same
  rw [IssuerState.held?, held, Option.bind_some, isSome_find?]
  exact published

/-- **A key that is held stays held** until a document comes that does not publish it. -/
theorem held_of_stillPublished {issuer keyId : String} {h later : History}
    (held : ((knownAfter s h issuer).held? keyId).isSome = true) (grows : h <:+ later)
    (published : StillPublished s issuer keyId h later) :
    ((knownAfter s later issuer).held? keyId).isSome = true := by
  induction later with
  | nil =>
    rw [List.suffix_nil] at grows
    subst grows
    exact held
  | cons m later ih =>
    rcases List.suffix_cons_iff.1 grows with same | earlier
    · subst same
      exact held
    · cases brought : brought? s issuer later m with
      | some b =>
        obtain ⟨now, keys⟩ := b
        exact held_of_brought s brought (published m later now keys (List.suffix_refl _) earlier brought)
      | none =>
        rw [IssuerState.held?, (kept_of_not_brought s brought).1]
        exact ih earlier published.of_cons

/-! ### Searches for a key that is held -/

/-- A search that is answered at once for a key that is held gets it, from an unexpired set. -/
theorem AtOnce.eq_of_held {now : Number} {known : IssuerState} {issuer keyId : String} {a : CallAnswer}
    {old : FoundKey} (answered : AtOnce s now known (.key issuer keyId) a)
    (registered : s.address? issuer ≠ none) (held : known.held? keyId = some old) :
    a = .key (some old) ∧ known.isYoung s.ttl now = true := by
  cases answered with
  | stranger absent => exact absurd absent registered
  | hit there young held' =>
    cases held.symm.trans held'
    exact ⟨rfl, young⟩
  | cooling there young missing => exact absurd (held.symm.trans missing) (by simp)

/-- Only issuers that are registered have keys. -/
theorem registered_of_held {h : History} {issuer keyId : String} {found : FoundKey}
    (held : (knownAfter s h issuer).held? keyId = some found) : s.address? issuer ≠ none := by
  intro absent
  rw [knownAfter_of_stranger s absent h] at held
  cases held

theorem generation_of_find? {set : KeySet} {keyId : String} {found : FoundKey}
    (there : set.find? keyId = some found) : found.generation = set.generation := by
  obtain ⟨entry, -, rfl⟩ := Option.map_eq_some_iff.1 there
  rfl

/-- A search that waits though its key is held has found it in an expired set, and falls back on it. -/
theorem fallback?_of_silent {h : History} {now : Number} {caller : Nat} {issuer keyId : String}
    {old : FoundKey} (silent : answersAt s h ⟨now, .call caller (.key issuer keyId)⟩ = [])
    (held : (knownAfter s h issuer).held? keyId = some old) :
    (knownAfter s h issuer).fallback? s.ttl now keyId = some old := by
  cases young : (knownAfter s h issuer).isYoung s.ttl now with
  | true =>
    rw [answersAt, (effectsAt_of_hit s caller young held).1] at silent
    cases silent
  | false =>
    obtain ⟨set, there, -⟩ := Option.bind_eq_some_iff.1 held
    rw [IssuerState.isYoung, there, Option.isSome_some, Bool.true_and, Bool.not_eq_false'] at young
    rw [IssuerState.fallback?, IssuerState.isExpired, there, young, if_pos (by rfl)]
    exact held

/-- A set that is expired is not young. -/
theorem isYoung_of_expired {known : IssuerState} {ttl now : Number} (positive : 0 < ttl)
    (old : ttl ≤ now - known.fetchedAt) : known.isYoung ttl now = false := by
  rw [IssuerState.isYoung, IssuerState.isStale, decide_eq_true positive, decide_eq_true old]
  simp

section Search

variable {s} {now : Number} {caller : Nat} {issuer keyId : String} {before h : History} {m : Moment}
  {old : FoundKey}

/-- **The answer to a search for a key that is held** is an entry for it, unless the fetch that was waited
for has brought a document without one. -/
theorem entry_or_dropped {a : CallAnswer} (held : (knownAfter s before issuer).held? keyId = some old)
    (reply : (⟨now, caller, .key issuer keyId, before⟩, a) ∈ repliesAt s h m) :
    (∃ found, a = .key (some found) ∧ found.entry.keyId = keyId) ∨
      a = .key none ∧ ⟨now, caller, .key issuer keyId, before⟩ ∈ waiting s issuer h ∧
        ∃ now' keys, brought? s issuer h m = some (now', keys) ∧ hasKeyId keys keyId = false := by
  rcases hears_of_reply s reply with
    ⟨-, -, at_once⟩ | ⟨now', name, outcome, result, rfl, waits, heard, rfl⟩
  · obtain ⟨rfl, -⟩ := at_once.eq_of_held s (registered_of_held s held) held
    exact .inl ⟨old, rfl, keyId_of_held? held⟩
  · obtain ⟨rfl, -, silent, -⟩ := kept_of_waiting s waits
    cases heard with
    | @brings set brought after =>
      cases found : set.find? keyId with
      | some new => exact .inl ⟨new, congrArg CallAnswer.key found, keyId_of_find? found⟩
      | none =>
        refine .inr ⟨congrArg CallAnswer.key found, waits, now', set.entries, brought, ?_⟩
        rw [← isSome_find?, found]
        rfl
    | fails nothing unavailable =>
      have fallback := fallback?_of_silent s silent held
      refine .inl ⟨old, ?_, keyId_of_held? held⟩
      rw [Inquiry.want, Inquiry.known, Call.issuer, Call.want, fallback]
      rfl

/-- **An entry of an expired set is the answer only after the fetch that was waited for has failed.** -/
theorem failed_of_expired {found : FoundKey} (positive : 0 < s.ttl)
    (age : s.ttl ≤ now - (knownAfter s before issuer).fetchedAt)
    (held : (knownAfter s before issuer).held? keyId = some found)
    (reply : (⟨now, caller, .key issuer keyId, before⟩, .key (some found)) ∈ repliesAt s h m) :
    ⟨now, caller, .key issuer keyId, before⟩ ∈ waiting s issuer h ∧
      (∃ now' outcome, m = ⟨now', .fetchEnd issuer outcome⟩) ∧ brought? s issuer h m = none := by
  rcases hears_of_reply s reply with
    ⟨-, -, at_once⟩ | ⟨now', name, outcome, result, rfl, waits, heard, same⟩
  · have young := (at_once.eq_of_held s (registered_of_held s held) held).2
    exact absurd ((isYoung_of_expired positive age).symm.trans young) Bool.false_ne_true
  · obtain ⟨rfl, -, -, keys⟩ := kept_of_waiting s waits
    refine ⟨waits, ⟨now', outcome, rfl⟩, ?_⟩
    cases heard with
    | @brings set brought after =>
      -- What the fetch has brought has a number of its own, and cannot be what was held before.
      obtain ⟨old_set, held_before, old_there⟩ := Option.bind_eq_some_iff.1 held
      have lt := generation_lt s (keys.trans held_before) (by rw [brought]; rfl) after
      have new_there : set.find? keyId = some found := (CallAnswer.key.inj same).symm
      rw [← generation_of_find? old_there, generation_of_find? new_there] at lt
      exact absurd lt (Nat.lt_irrefl _)
    | fails nothing unavailable => exact nothing

end Search

/-- **What becomes of a search for a key that is held.** -/
structure Obtainable (p : Inquiry) (keyId : String) : Prop where
  held : ((p.known s).held? keyId).isSome = true
  /-- It is answered at once, or waits, -/
  heard : (∃ a, (p, a) ∈ repliesAt s p.before p.moment) ∨
    p ∈ waiting s p.call.issuer (p.moment :: p.before)
  /-- and then it is answered when the fetch ends, however it ends. -/
  ends : ∀ h now outcome, p ∈ waiting s p.call.issuer h →
    ∃ a, (p, a) ∈ repliesAt s h ⟨now, .fetchEnd p.call.issuer outcome⟩
  /-- The answer is an entry for the key id, unless the fetch that it waited for has brought a document
  without one. -/
  answer : ∀ h m a, (p, a) ∈ repliesAt s h m →
    (∃ found, a = .key (some found) ∧ found.entry.keyId = keyId) ∨
    a = .key none ∧ p ∈ waiting s p.call.issuer h ∧
      ∃ now keys, brought? s p.call.issuer h m = some (now, keys) ∧ hasKeyId keys keyId = false
  /-- The entry of an expired set is the answer only after the fetch that it waited for has failed. -/
  lastResort : 0 < s.ttl → s.ttl ≤ p.now - (p.known s).fetchedAt →
    ∀ h m found, (p, .key (some found)) ∈ repliesAt s h m → (p.known s).held? keyId = some found →
    p ∈ waiting s p.call.issuer h ∧ (∃ now outcome, m = ⟨now, .fetchEnd p.call.issuer outcome⟩) ∧
      brought? s p.call.issuer h m = none

/-- **A key that was held once can be obtained** at any later time, until a document comes that does not
publish it. -/
theorem obtainable {h : History} {p : Inquiry} {issuer keyId : String}
    (held : ((knownAfter s h issuer).held? keyId).isSome = true) (since : h <:+ p.before)
    (published : StillPublished s issuer keyId h p.before) (asks : p.call = .key issuer keyId) :
    Obtainable s p keyId := by
  obtain ⟨now, caller, c, before⟩ := p
  cases asks
  have still := held_of_stillPublished s held since published
  obtain ⟨old, there⟩ := Option.isSome_iff_exists.1 still
  exact {
    held := still
    heard := replied_or_waiting s _
    ends := fun h now outcome waits => reply_of_waiting s waits now outcome
    answer := fun b m a reply => entry_or_dropped there reply
    lastResort := fun positive age b m found reply there' => failed_of_expired positive age there' reply }

/-- One issuer, whose sets are expired after a second. -/
def oneSecond : Settings := { sources := [("iss-1", "https://idp.test/certs")], ttl := 1000 }

/-- A document that publishes the key `a`. -/
def publishingA : Json :=
  .object [("keys", .array [.object
    [("kty", .string "RSA"), ("kid", .string "a"), ("n", .string "AQAB"), ("e", .string "AQAB")]])]

/-- A search fetches the document. -/
def supply : History :=
  [⟨20, .fetchEnd "iss-1" (.document publishingA)⟩, ⟨0, .call 0 (.key "iss-1" "a")⟩]

/-- Then a fetch fails, and the next one is under way when the set is expired. -/
def outage : History :=
  [⟨1030, .call 2 (.refresh "iss-1")⟩, ⟨1020, .fetchEnd "iss-1" .failed⟩,
    ⟨1010, .call 1 (.refresh "iss-1")⟩] ++ supply

/-- In an outage, a search for a key in a set that is expired joins the fetch of another caller. -/
theorem obtainable_in_outage :
    ((knownAfter oneSecond supply "iss-1").held? "a").isSome = true ∧ supply <:+ outage ∧
      StillPublished oneSecond "iss-1" "a" supply outage ∧
      Obtainable oneSecond ⟨1040, 3, .key "iss-1" "a", outage⟩ "a" := by
  have held : ((knownAfter oneSecond supply "iss-1").held? "a").isSome = true := by decide +kernel
  have since : supply <:+ outage := List.suffix_append _ _
  have nothing_else : StillPublished oneSecond "iss-1" "a" supply outage := by
    refine ((StillPublished.refl.cons ?_).cons ?_).cons ?_
    · intro now keys brought
      cases brought
    · intro now keys brought
      rw [brought?] at brought
      split at brought <;> cases brought
    · intro now keys brought
      cases brought
  exact ⟨held, since, nothing_else, obtainable oneSecond held since nothing_else rfl⟩

end KeyCache

end BearerGate
