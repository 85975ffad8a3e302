import BearerGate.Proofs.KeySet.Availability
import BearerGate.Proofs.KeySet.Cooldown

/-!
# Searches that need no fetch

When a search is answered without a fetch is decided by what the issuer was last seen to do: when it last
brought keys and which (`latest?`), and when its last fetch began, however that fetch came about and however
it ended (`lastBegun?`).  With no fetch under way, a search is spared one exactly if the keys that were
brought last are unexpired, and the key is among them or the cooldown still runs (`frugal`).

The cache has no list of beginnings.  It keeps one time, and two invariants make that enough: the time is that
of the last beginning (`lastAttempt_eq`), and whoever has keys has once begun a fetch (`exists_begun`).
-/

namespace BearerGate

namespace KeyCache

/-! ### The last beginning -/

instance (s : Settings) (issuer : String) (h : History) (m : Moment) : Decidable (Launches s issuer h m) :=
  inferInstanceAs (Decidable (_ ∧ _))

/-- **When the last fetch of an issuer began,** if one has. -/
def lastBegun? (s : Settings) (issuer : String) : History → Option Number
  | [] => none
  | m :: h => if Launches s issuer h m then some m.now else lastBegun? s issuer h

variable (s : Settings)

/-- **What the cache remembers is when the last fetch began.** -/
theorem lastAttempt_eq (issuer : String) (h : History) :
    (knownAfter s h issuer).lastAttempt = (lastBegun? s issuer h).getD 0 := by
  induction h with
  | nil => rfl
  | cons m h ih =>
    obtain ⟨launches, stays⟩ := lastAttempt_cons s issuer h m
    rw [lastBegun?]
    by_cases begins : Launches s issuer h m
    · rw [if_pos begins, launches begins]
      rfl
    · rw [if_neg begins, stays begins, ih]

/-- Where a fetch is under way or a set is held, a fetch has begun. -/
theorem exists_begun {issuer : String} {h : History}
    (some_fetch : (knownAfter s h issuer).flight ≠ none ∨ (knownAfter s h issuer).keys ≠ none) :
    ∃ begun, lastBegun? s issuer h = some begun := by
  induction h with
  | nil => exact some_fetch.elim (absurd rfl) (absurd rfl)
  | cons m h ih =>
    rw [lastBegun?]
    by_cases begins : Launches s issuer h m
    · exact ⟨m.now, if_pos begins⟩
    · rw [if_neg begins]
      refine ih ?_
      rw [Launches] at begins
      have changes := changes_cons s issuer h m
      generalize knownAfter s (m :: h) issuer = after at begins changes some_fetch
      cases changes with
      | stays => exact some_fetch
      | joins under_way => exact .inl (by rw [under_way]; exact Option.some_ne_none _)
      | launches idle => exact absurd ⟨idle, Option.some_ne_none _⟩ begins
      | lands under_way => exact .inl (by rw [under_way]; exact Option.some_ne_none _)
      | refreshes under_way => exact .inl (by rw [under_way]; exact Option.some_ne_none _)

/-! ### Ages -/

namespace Settings

/-- Keys that were brought at a time have reached the time to live. -/
def Expired (since now : Number) : Prop := 0 < s.ttl ∧ s.ttl ≤ now - since

/-- Less than the cooldown has passed since a fetch began. -/
def Cooling (begun now : Number) : Prop := 0 < s.cooldown ∧ now - begun < s.cooldown

end Settings

/-- **A search is spared a fetch:** the keys that were brought last are unexpired, and the key is among them
or the cooldown runs since the last fetch began. -/
def Spared (issuer keyId : String) (h : History) (now : Number) : Prop :=
  ∃ since keys, latest? s issuer h = some (since, keys) ∧ ¬s.Expired since now ∧
    (hasKeyId keys keyId = true ∨ ∃ begun, lastBegun? s issuer h = some begun ∧ s.Cooling begun now)

section Ages

variable {s} {issuer keyId : String} {h : History} {now : Number}

/-- The set that is held, and its time, are what was brought last. -/
theorem exists_set_of_latest {since : Number} {keys : List KeyEntry}
    (latest : latest? s issuer h = some (since, keys)) :
    ∃ set, (knownAfter s h issuer).keys = some set ∧ set.entries = keys ∧
      (knownAfter s h issuer).fetchedAt = since := by
  rw [← cached_eq_latest?] at latest
  obtain ⟨set, held, same⟩ := Option.map_eq_some_iff.1 latest
  cases same
  exact ⟨set, held, rfl, rfl⟩

theorem isStale_iff {since : Number} {keys : List KeyEntry}
    (latest : latest? s issuer h = some (since, keys)) :
    (knownAfter s h issuer).isStale s.ttl now = true ↔ s.Expired since now := by
  obtain ⟨set, -, -, rfl⟩ := exists_set_of_latest latest
  rw [IssuerState.isStale, Bool.and_eq_true, decide_eq_true_iff, decide_eq_true_iff]
  rfl

/-- An issuer has an unexpired set exactly if what was brought last is unexpired. -/
theorem isYoung_iff : (knownAfter s h issuer).isYoung s.ttl now = true ↔
    ∃ since keys, latest? s issuer h = some (since, keys) ∧ ¬s.Expired since now := by
  constructor
  · intro young
    rw [IssuerState.isYoung, Bool.and_eq_true, Bool.not_eq_true'] at young
    obtain ⟨set, held⟩ := Option.isSome_iff_exists.1 young.1
    have latest : latest? s issuer h = some ((knownAfter s h issuer).fetchedAt, set.entries) := by
      rw [← cached_eq_latest?, IssuerState.cached, held]
      rfl
    refine ⟨_, _, latest, fun expired => ?_⟩
    exact absurd ((isStale_iff latest).2 expired) (by rw [young.2]; exact Bool.false_ne_true)
  · rintro ⟨since, keys, latest, unexpired⟩
    obtain ⟨set, held, -, -⟩ := exists_set_of_latest latest
    rw [IssuerState.isYoung, held, Option.isSome_some, Bool.true_and, Bool.not_eq_true',
      ← Bool.not_eq_true, isStale_iff latest]
    exact unexpired

/-- What is held under a key id is the entry under it of the keys that were brought last. -/
theorem held?_eq_of_latest (keyId : String) {since : Number} {keys : List KeyEntry}
    (latest : latest? s issuer h = some (since, keys)) :
    ∃ generation, (knownAfter s h issuer).held? keyId =
      (keys.find? (·.keyId = keyId)).map (⟨·, generation⟩) := by
  obtain ⟨set, held, rfl, -⟩ := exists_set_of_latest latest
  refine ⟨set.generation, ?_⟩
  rw [IssuerState.held?, held]
  rfl

/-- Once a fetch has begun, the cache measures the cooldown from the last beginning. -/
theorem inCooldown_iff {begun : Number} (last : lastBegun? s issuer h = some begun) :
    (knownAfter s h issuer).inCooldown s.cooldown now = true ↔ s.Cooling begun now := by
  rw [IssuerState.inCooldown, lastAttempt_eq, last, Bool.and_eq_true, decide_eq_true_iff, decide_eq_true_iff]
  rfl

end Ages

/-! ### One search -/

section Search

variable {s} {issuer keyId address : String} {h : History} {now : Number}

/-- A key of the unexpired keys is a hit, and that is all that happens. -/
theorem occur_of_hit (caller : Nat) {since : Number} {keys : List KeyEntry} {entry : KeyEntry}
    (registered : s.address? issuer = some address) (latest : latest? s issuer h = some (since, keys))
    (unexpired : ¬s.Expired since now) (among : keys.find? (·.keyId = keyId) = some entry) :
    ∃ generation, occur s (stateAfter s h) ⟨now, .call caller (.key issuer keyId)⟩ =
      ((stateAfter s h).countHit, [.answer caller (.key (some ⟨entry, generation⟩))]) := by
  have young := isYoung_iff.2 ⟨since, keys, latest, unexpired⟩
  obtain ⟨generation, held⟩ := held?_eq_of_latest keyId latest
  rw [among] at held
  rw [knownAfter] at young held
  refine ⟨generation, ?_⟩
  simp only [occur, start_key s now _ caller keyId registered, young, if_true, held, Option.map_some]

/-- A key that is not among the unexpired ones is a miss while the cooldown runs, and that is all that
happens. -/
theorem occur_of_cooling (caller : Nat) {since begun : Number} {keys : List KeyEntry}
    (registered : s.address? issuer = some address) (latest : latest? s issuer h = some (since, keys))
    (unexpired : ¬s.Expired since now) (unknown : hasKeyId keys keyId = false)
    (idle : (knownAfter s h issuer).flight = none) (last : lastBegun? s issuer h = some begun)
    (cools : s.Cooling begun now) :
    ∃ e, occur s (stateAfter s h) ⟨now, .call caller (.key issuer keyId)⟩ =
      ((stateAfter s h).countMiss, [.log e, .answer caller (.key none)]) := by
  have young := isYoung_iff.2 ⟨since, keys, latest, unexpired⟩
  have cooldown := (inCooldown_iff last).2 cools
  obtain ⟨generation, held⟩ := held?_eq_of_latest keyId latest
  rw [hasKeyId, ← List.isSome_find?, Option.isSome_eq_false_iff, Option.isNone_iff_eq_none] at unknown
  rw [unknown, Option.map_none] at held
  rw [knownAfter] at young held idle cooldown
  refine ⟨.texts .debug "Unknown kid during refresh cooldown" [("issuer", issuer), ("kid", keyId)], ?_⟩
  simp only [occur, start_key s now _ caller keyId registered, young, if_true, held, idle, cooldown,
    Option.isNone_none, Bool.and_self]

/-- A moment that leaves the issuer as it is begins no fetch. -/
theorem not_launches_of_kept {m : Moment} (idle : (knownAfter s h issuer).flight = none)
    (kept : (occur s (stateAfter s h) m).1.issuer issuer = (stateAfter s h).issuer issuer) :
    ¬Launches s issuer h m := by
  rintro ⟨-, after⟩
  rw [knownAfter, stateAfter, kept] at after
  exact after idle

/-- **A search that is spared a fetch is answered without one.** -/
theorem answered_of_spared (caller : Nat) (registered : s.address? issuer = some address)
    (idle : (knownAfter s h issuer).flight = none) (spared : Spared s issuer keyId h now) :
    (∃ a, answersAt s h ⟨now, .call caller (.key issuer keyId)⟩ = [(caller, a)]) ∧
      ¬Launches s issuer h ⟨now, .call caller (.key issuer keyId)⟩ := by
  obtain ⟨since, keys, latest, unexpired, why⟩ := spared
  cases known : hasKeyId keys keyId with
  | true =>
    rw [hasKeyId, ← List.isSome_find?] at known
    obtain ⟨entry, among⟩ := Option.isSome_iff_exists.1 known
    obtain ⟨generation, occurs⟩ := occur_of_hit caller registered latest unexpired among
    refine ⟨⟨.key (some ⟨entry, generation⟩), ?_⟩, not_launches_of_kept idle (by rw [occurs]; rfl)⟩
    rw [answersAt, effectsAt, occurs]
    rfl
  | false =>
    rcases why with among | ⟨begun, last, cools⟩
    · exact absurd (among.symm.trans known) (by simp)
    · obtain ⟨e, occurs⟩ := occur_of_cooling caller registered latest unexpired known idle last cools
      refine ⟨⟨.key none, ?_⟩, not_launches_of_kept idle (by rw [occurs]; rfl)⟩
      rw [answersAt, effectsAt, occurs]
      rfl

/-- **A search that is not spared a fetch comes to wait for one.** -/
theorem waits_of_not_spared (caller : Nat) (registered : s.address? issuer = some address)
    (unspared : ¬Spared s issuer keyId h now) :
    answersAt s h ⟨now, .call caller (.key issuer keyId)⟩ = [] ∧
      ⟨now, caller, .key issuer keyId, h⟩ ∈
        waiting s issuer (⟨now, .call caller (.key issuer keyId)⟩ :: h) ∧
      (knownAfter s (⟨now, .call caller (.key issuer keyId)⟩ :: h) issuer).flight ≠ none := by
  have registered' : s.address? (Call.key issuer keyId).issuer = some address := registered
  have miss : (Call.key issuer keyId).isMiss s.ttl now (knownAfter s h issuer) = true := by
    rw [Call.isMiss, Bool.not_eq_true', ← Bool.not_eq_true, Bool.and_eq_true]
    rintro ⟨young, held⟩
    obtain ⟨since, keys, latest, unexpired⟩ := isYoung_iff.1 young
    obtain ⟨set, there, rfl, -⟩ := exists_set_of_latest latest
    rw [IssuerState.held?, there, Option.bind_some, isSome_find?] at held
    exact unspared ⟨since, set.entries, latest, unexpired, .inl held⟩
  have free : (Call.key issuer keyId).isSpared s now (knownAfter s h issuer) = false := by
    rw [Call.isSpared, ← Bool.not_eq_true, Bool.and_eq_true]
    rintro ⟨young, cooldown⟩
    obtain ⟨since, keys, latest, unexpired⟩ := isYoung_iff.1 young
    obtain ⟨set, there, -, -⟩ := exists_set_of_latest latest
    obtain ⟨begun, last⟩ := exists_begun s (.inr (by rw [there]; exact Option.some_ne_none _))
    exact unspared ⟨since, keys, latest, unexpired, .inr ⟨begun, last, (inCooldown_iff last).1 cooldown⟩⟩
  obtain ⟨st₀, -, loads⟩ := loads_of_miss s caller registered' miss fun _ => free
  have silent : answersAt s h ⟨now, .call caller (.key issuer keyId)⟩ = [] := loads.answers
  have waits := waiting_call_of_silent silent
  rw [Call.issuer] at waits
  rw [waits]
  exact ⟨silent, List.mem_append_right _ (List.mem_singleton.2 rfl), loads.flight_ne_none⟩

/-- Whoever waits goes on waiting until a fetch of the issuer ends. -/
theorem waiting_append {p : Inquiry} (between : History)
    (open_end : ∀ m ∈ between, ∀ outcome, m.event ≠ .fetchEnd issuer outcome)
    (waits : p ∈ waiting s issuer h) : p ∈ waiting s issuer (between ++ h) := by
  induction between with
  | nil => exact waits
  | cons m between ih =>
    have still := ih fun m' member => open_end m' (List.mem_cons_of_mem m member)
    obtain ⟨now, event⟩ := m
    cases event with
    | call caller c => exact waiting_prefix_call.subset still
    | fetchEnd name outcome =>
      have ne : issuer ≠ name := by
        rintro rfl
        exact open_end _ List.mem_cons_self outcome rfl
      rw [List.cons_append, waiting_of_ne (show issuer ≠ (Event.fetchEnd name outcome).issuer from ne)]
      exact still

end Search

/-! ### All of it -/

/-- **How a search deals with fetches.** -/
structure Frugal (p : Inquiry) (issuer keyId : String) : Prop where
  /-- With no fetch under way, it is answered without one being begun exactly if it is spared one. -/
  spared : (p.known s).flight = none →
    ((∃ a, answersAt s p.before p.moment = [(p.caller, a)]) ∧ ¬Launches s issuer p.before p.moment ↔
      Spared s issuer keyId p.before p.now)
  /-- A key that is unexpired is the answer, and the hits are all that grows. -/
  hit : ∀ since keys entry, latest? s issuer p.before = some (since, keys) → ¬s.Expired since p.now →
    keys.find? (·.keyId = keyId) = some entry →
    (∃ generation, answersAt s p.before p.moment = [(p.caller, .key (some ⟨entry, generation⟩))]) ∧
    stateAfter s (p.moment :: p.before) = (stateAfter s p.before).countHit
  /-- While the cooldown runs, the answer about an unknown key is that there is none, and the misses are all
  that grows. -/
  cooling : (p.known s).flight = none →
    ∀ since keys begun, latest? s issuer p.before = some (since, keys) → ¬s.Expired since p.now →
    hasKeyId keys keyId = false → lastBegun? s issuer p.before = some begun → s.Cooling begun p.now →
    answersAt s p.before p.moment = [(p.caller, .key none)] ∧
    stateAfter s (p.moment :: p.before) = (stateAfter s p.before).countMiss
  /-- A fetch that it begins while there are unexpired keys begins at least the cooldown after the last one. -/
  spaced : 0 < s.cooldown → Launches s issuer p.before p.moment →
    ∀ since keys begun, latest? s issuer p.before = some (since, keys) → ¬s.Expired since p.now →
    lastBegun? s issuer p.before = some begun → p.now.isFinite = true → begun.isFinite = true →
    s.cooldown ≤ p.now - begun
  /-- Once the cooldown is over, a key that was unknown is found if the next fetch that ends publishes it. -/
  found : (∀ since keys, latest? s issuer p.before = some (since, keys) → hasKeyId keys keyId = false) →
    (∀ begun, lastBegun? s issuer p.before = some begun → s.cooldown ≤ p.now - begun) →
    ∀ between : History, (∀ m ∈ between, ∀ outcome, m.event ≠ .fetchEnd issuer outcome) →
    ∀ now outcome keys entry,
      brought? s issuer (between ++ p.moment :: p.before) ⟨now, .fetchEnd issuer outcome⟩ = some (now, keys) →
      keys.find? (·.keyId = keyId) = some entry →
      ∃ generation, (p, .key (some ⟨entry, generation⟩)) ∈
        repliesAt s (between ++ p.moment :: p.before) ⟨now, .fetchEnd issuer outcome⟩
  /-- Nothing is answered from expired keys before a fetch was begun or joined. -/
  awaits : ∀ since keys, latest? s issuer p.before = some (since, keys) → s.Expired since p.now →
    answersAt s p.before p.moment = [] ∧ p ∈ waiting s issuer (p.moment :: p.before) ∧
    (knownAfter s (p.moment :: p.before) issuer).flight ≠ none

/-- What waits is answered with the key if the fetch brings it. -/
theorem reply_of_brought {p : Inquiry} {issuer keyId : String} {h : History} {now : Number}
    {outcome : FetchOutcome} {keys : List KeyEntry} {entry : KeyEntry} (asks : p.call = .key issuer keyId)
    (waits : p ∈ waiting s issuer h)
    (brought : brought? s issuer h ⟨now, .fetchEnd issuer outcome⟩ = some (now, keys))
    (among : keys.find? (·.keyId = keyId) = some entry) :
    ∃ generation, (p, .key (some ⟨entry, generation⟩)) ∈ repliesAt s h ⟨now, .fetchEnd issuer outcome⟩ := by
  obtain ⟨result, heard, replies⟩ := repliesAt_fetchEnd s h now issuer outcome
  cases heard with
  | fails nothing unavailable => exact absurd (brought.symm.trans nothing) (by simp)
  | @brings set brought' held =>
    cases brought.symm.trans brought'
    have answer : answerTo (.ok set) (p.want s) = .key (some ⟨entry, set.generation⟩) := by
      rw [Inquiry.want, asks, Call.want, answerTo, KeySet.find?, among]
      rfl
    refine ⟨set.generation, ?_⟩
    rw [replies, ← answer]
    exact List.mem_map.2 ⟨p, waits, rfl⟩

/-- **A search fetches only if it has to,** whatever has happened before. -/
theorem frugal {p : Inquiry} {issuer keyId : String} (asks : p.call = .key issuer keyId)
    (registered : s.address? issuer ≠ none) : Frugal s p issuer keyId := by
  obtain ⟨now, caller, c, before⟩ := p
  cases asks
  obtain ⟨address, there⟩ := Option.ne_none_iff_exists'.1 registered
  refine ⟨?_, ?_, ?_, ?_, ?_, ?_⟩
  · intro idle
    refine ⟨fun ⟨⟨a, answered⟩, _⟩ => ?_, answered_of_spared caller there idle⟩
    refine Classical.byContradiction fun unspared => ?_
    exact absurd (answered.symm.trans (waits_of_not_spared caller there unspared).1) (by simp)
  · intro since keys entry latest unexpired among
    obtain ⟨generation, occurs⟩ := occur_of_hit caller there latest unexpired among
    refine ⟨⟨generation, ?_⟩, congrArg Prod.fst occurs⟩
    rw [answersAt, effectsAt, Inquiry.moment, occurs]
    rfl
  · intro idle since keys begun latest unexpired unknown last cools
    obtain ⟨e, occurs⟩ := occur_of_cooling caller there latest unexpired unknown idle last cools
    refine ⟨?_, congrArg Prod.fst occurs⟩
    rw [answersAt, effectsAt, Inquiry.moment, occurs]
    rfl
  · intro positive launches since keys begun latest unexpired last now_finite begun_finite
    have ended := not_inCooldown_of_launches (isYoung_iff.2 ⟨since, keys, latest, unexpired⟩) launches
    have not_cooling : ¬s.Cooling begun now := by
      rw [← inCooldown_iff last, ended]
      exact Bool.false_ne_true
    have elapsed := Number.sub_ne_nan now_finite begun_finite
    exact Number.le_of_not_lt elapsed (Number.ne_nan_of_lt positive) fun less => not_cooling ⟨positive, less⟩
  · intro unknown elapsed between open_end now' outcome keys entry brought among
    have unspared : ¬Spared s issuer keyId before now := by
      rintro ⟨since, old, latest, -, among' | ⟨begun, last, -, cools⟩⟩
      · exact absurd (among'.symm.trans (unknown since old latest)) (by simp)
      · exact Number.not_lt_of_le (elapsed begun last) cools
    have waits := waiting_append between open_end (waits_of_not_spared caller there unspared).2.1
    exact reply_of_brought s rfl waits brought among
  · intro since keys latest expired
    refine waits_of_not_spared caller there ?_
    rintro ⟨since', keys', latest', unexpired, -⟩
    cases latest.symm.trans latest'
    exact unexpired expired

/-- One issuer, whose sets are expired after a minute, with a cooldown of ten seconds. -/
def watchful : Settings := { sources := [("iss-1", "https://idp.test/certs")], ttl := 60000, cooldown := 10000 }

/-- A search fetches a document, and later a refresh fails. -/
def troubled : History :=
  [⟨12030, .fetchEnd "iss-1" .failed⟩, ⟨12000, .call 1 (.refresh "iss-1")⟩] ++ supply

/-- The keys of the document. -/
def publishedA : List KeyEntry := usableKeys KeyRecord.publicKey? [.ofJson (.object
  [("kty", .string "RSA"), ("kid", .string "a"), ("n", .string "AQAB"), ("e", .string "AQAB")])]

/-- The failed refresh counts for the cooldown, to the millisecond: when it began less than ten seconds ago, a
search for a new key is spared a fetch, and when it began ten seconds ago, it is not. -/
theorem frugal_after_failed_refresh :
    watchful.address? "iss-1" ≠ none ∧
      Spared watchful "iss-1" "b" troubled 21999 ∧ ¬Spared watchful "iss-1" "b" troubled 22000 ∧
      Frugal watchful ⟨21999, 2, .key "iss-1" "b", troubled⟩ "iss-1" "b" ∧
      Frugal watchful ⟨22000, 2, .key "iss-1" "b", troubled⟩ "iss-1" "b" := by
  have registered : watchful.address? "iss-1" ≠ none := by decide +kernel
  have latest : latest? watchful "iss-1" troubled = some (20, publishedA) := by decide +kernel
  have last : lastBegun? watchful "iss-1" troubled = some 12000 := by decide +kernel
  refine ⟨registered, ⟨20, publishedA, latest, ?_, .inr ⟨12000, last, ?_⟩⟩, ?_, ?_, ?_⟩
  · rintro ⟨-, old⟩
    exact absurd old (by decide +kernel)
  · exact ⟨by decide +kernel, by decide +kernel⟩
  · rintro ⟨since, keys, latest', -, among | ⟨begun, last', -, cools⟩⟩
    · rw [← (Prod.mk.inj (Option.some.inj (latest.symm.trans latest'))).2] at among
      exact absurd among (by decide +kernel)
    · rw [← Option.some.inj (last.symm.trans last')] at cools
      exact absurd cools (by decide +kernel)
  · exact frugal watchful rfl registered
  · exact frugal watchful rfl registered

end KeyCache

end BearerGate
