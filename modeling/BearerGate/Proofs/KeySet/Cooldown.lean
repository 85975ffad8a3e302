import BearerGate.Proofs.KeySet.SingleFlight
import BearerGate.Proofs.Number.Order

/-!
# The cooldown

While an issuer has a set that is not expired, searches for keys that are not in it begin fetches only so
often: each at least the cooldown after every fetch that began before (`cooldown_spaces`).  Without such a
set the cooldown holds nothing back, and searches during an outage fetch one after the other
(`not_apart_without_set`).

The invariant is that the last beginning which the cache remembers is the time of the last fetch that began
(`lastAttempt_of_launched`).  Times are compared by differences that are rounded, which respects their order
as long as the clock goes forward.
-/

namespace BearerGate

namespace KeyCache

/-! ### Beginnings -/

/-- **A fetch of an issuer begins** at a moment: none was under way, and now one is. -/
def Launches (s : Settings) (issuer : String) (h : History) (m : Moment) : Prop :=
  (knownAfter s h issuer).flight = none ∧ (knownAfter s (m :: h) issuer).flight ≠ none

variable (s : Settings)

/-- **The cache remembers when a fetch has begun,** and nothing else changes what it remembers. -/
theorem lastAttempt_cons (issuer : String) (h : History) (m : Moment) :
    (Launches s issuer h m → (knownAfter s (m :: h) issuer).lastAttempt = m.now) ∧
      (¬Launches s issuer h m →
        (knownAfter s (m :: h) issuer).lastAttempt = (knownAfter s h issuer).lastAttempt) := by
  have changes := changes_cons s issuer h m
  rw [Launches]
  generalize knownAfter s (m :: h) issuer = after at changes ⊢
  cases changes with
  | stays => exact ⟨fun launches => absurd launches.1 launches.2, fun _ => rfl⟩
  | joins under_way =>
    exact ⟨fun launches => absurd (launches.1.symm.trans under_way) (by simp), fun _ => rfl⟩
  | launches idle =>
    exact ⟨fun _ => rfl, fun not_launches => absurd ⟨idle, Option.some_ne_none _⟩ not_launches⟩
  | lands under_way => exact ⟨fun launches => absurd rfl launches.2, fun _ => rfl⟩
  | refreshes under_way => exact ⟨fun launches => absurd rfl launches.2, fun _ => rfl⟩

/-- **What is remembered is the time of the last fetch that began:** of a beginning that is no earlier than
any other. -/
theorem lastAttempt_of_launched {issuer : String} {h before : History} {m : Moment}
    (part : m :: before <:+ h) (launched : Launches s issuer before m) :
    ∃ m' before', m :: before <:+ m' :: before' ∧ m' :: before' <:+ h ∧
      (knownAfter s h issuer).lastAttempt = m'.now := by
  induction h with
  | nil => exact absurd (List.suffix_nil.1 part) (by simp)
  | cons m' h ih =>
    obtain ⟨launches, stays⟩ := lastAttempt_cons s issuer h m'
    by_cases this_moment : Launches s issuer h m'
    · exact ⟨m', h, part, List.suffix_refl _, launches this_moment⟩
    · rcases List.suffix_cons_iff.1 part with same | earlier
      · cases same
        exact absurd launched this_moment
      · obtain ⟨last, before', later, inside, remembered⟩ := ih earlier
        exact ⟨last, before', later, inside.trans (List.suffix_cons m' h),
          (stays this_moment).trans remembered⟩

/-! ### Clocks -/

/-- **A clock that goes forward:** its readings in a history are finite, and none is below an earlier one. -/
structure Forward (h : History) : Prop where
  finite : ∀ m ∈ h, m.now.isFinite = true
  ordered : h.Pairwise fun later earlier => earlier.now ≤ later.now

theorem Forward.of_suffix {h h' : History} (forward : Forward h') (part : h <:+ h') : Forward h where
  finite m member := forward.finite m (part.subset member)
  ordered := forward.ordered.sublist part.sublist

/-- No reading is below one of its past. -/
theorem Forward.le {h : History} {m m' : Moment} (forward : Forward (m :: h)) (earlier : m' ∈ h) :
    m'.now ≤ m.now := (List.pairwise_cons.1 forward.ordered).1 m' earlier

/-- The reading of a moment is not above that of a later one, or of the same. -/
theorem Forward.le_of_suffix {h before before' : History} {m m' : Moment} (forward : Forward h)
    (inside : m' :: before' <:+ h) (part : m :: before <:+ m' :: before') : m.now ≤ m'.now := by
  rcases List.suffix_cons_iff.1 part with same | earlier
  · cases same
    exact Number.le_self (forward.finite m (inside.subset List.mem_cons_self))
  · exact (forward.of_suffix inside).le (earlier.subset List.mem_cons_self)

section Elapsed

variable {s} {issuer : String} {h before : History} {m m' : Moment} (forward : Forward (m' :: h))
  (part : m :: before <:+ h) (launched : Launches s issuer before m)
include forward part launched

/-- As the cache measures it, no more time has passed since the last fetch began than since any that has
begun. -/
theorem elapsed_le :
    m'.now - (knownAfter s h issuer).lastAttempt ≤ m'.now - m.now ∧
      m'.now - (knownAfter s h issuer).lastAttempt ≠ .nan := by
  obtain ⟨last, before', later, inside, remembered⟩ := lastAttempt_of_launched s part launched
  have now_finite := forward.finite m' List.mem_cons_self
  have finite := forward.finite m (List.mem_cons_of_mem m' (part.subset List.mem_cons_self))
  have last_finite := forward.finite last (List.mem_cons_of_mem m' (inside.subset List.mem_cons_self))
  have order : m.now ≤ last.now := (forward.of_suffix (List.suffix_cons m' h)).le_of_suffix inside later
  rw [remembered]
  exact ⟨Number.sub_le_sub_left finite last_finite now_finite order, Number.sub_ne_nan now_finite last_finite⟩

/-- Where no cooldown runs, every fetch that has begun did so at least the cooldown ago, -/
theorem le_elapsed (positive : 0 < s.cooldown)
    (ended : (knownAfter s h issuer).inCooldown s.cooldown m'.now = false) :
    s.cooldown ≤ m'.now - m.now := by
  obtain ⟨le, number⟩ := elapsed_le forward part launched
  rw [IssuerState.inCooldown, decide_eq_true positive, Bool.true_and, decide_eq_false_iff_not] at ended
  exact Number.le_trans (Number.le_of_not_lt number (Number.ne_nan_of_lt positive) ended) le

/-- and where one has begun more recently, the cooldown runs. -/
theorem inCooldown_of_recent (positive : 0 < s.cooldown) (recent : m'.now - m.now < s.cooldown) :
    (knownAfter s h issuer).inCooldown s.cooldown m'.now = true := by
  have elapsed := Number.lt_of_le_of_lt (elapsed_le forward part launched).1 recent
  rw [IssuerState.inCooldown, decide_eq_true positive, decide_eq_true elapsed, Bool.true_and]

end Elapsed

/-! ### Searches and the cooldown -/

section Search

variable {s} {h : History} {now : Number} {caller : Nat} {issuer keyId : String}

/-- **A search is not what begins a fetch while the set is unexpired and the cooldown runs.** -/
theorem not_inCooldown_of_launches (young : (knownAfter s h issuer).isYoung s.ttl now = true)
    (launches : Launches s issuer h ⟨now, .call caller (.key issuer keyId)⟩) :
    (knownAfter s h issuer).inCooldown s.cooldown now = false := by
  obtain ⟨idle, after⟩ := launches
  rw [knownAfter] at idle after
  have begins := begins_call s h now caller (.key issuer keyId)
  generalize stateAfter s (⟨now, .call caller (.key issuer keyId)⟩ :: h) = st' at after begins
  generalize effectsAt s h ⟨now, .call caller (.key issuer keyId)⟩ = effects at begins
  cases begins with
  | stranger absent => exact absurd idle after
  | hit there young' held => exact absurd idle after
  | cooling there young' missing idle' cooldown => exact absurd idle after
  | searches there miss free loads => exact free young idle

/-- A search for a key that an unexpired set does not have is answered at once while the cooldown runs. -/
theorem effectsAt_of_inCooldown (caller : Nat) (young : (knownAfter s h issuer).isYoung s.ttl now = true)
    (missing : (knownAfter s h issuer).held? keyId = none) (idle : (knownAfter s h issuer).flight = none)
    (cooldown : (knownAfter s h issuer).inCooldown s.cooldown now = true) :
    effectsAt s h ⟨now, .call caller (.key issuer keyId)⟩ =
      [.log (.texts .debug "Unknown kid during refresh cooldown" [("issuer", issuer), ("kid", keyId)]),
        .answer caller (.key none)] := by
  have begins := begins_call s h now caller (.key issuer keyId)
  rw [knownAfter] at young missing idle cooldown
  generalize stateAfter s (⟨now, .call caller (.key issuer keyId)⟩ :: h) = st' at begins
  generalize effectsAt s h ⟨now, .call caller (.key issuer keyId)⟩ = effects at begins ⊢
  cases begins with
  | stranger absent =>
    have nothing := knownAfter_of_stranger s absent h
    rw [knownAfter] at nothing
    rw [nothing] at young
    cases young
  | hit there young' held => exact absurd (held.symm.trans missing) (by simp)
  | cooling there young' missing' idle' cooldown' => rfl
  | searches there miss free loads => exact absurd ((free young idle).symm.trans cooldown) (by simp)

/-- Without an unexpired set, a search begins a fetch where none is under way. -/
theorem launches_of_not_isYoung (caller : Nat) (keyId : String) (registered : s.address? issuer ≠ none)
    (old : (knownAfter s h issuer).isYoung s.ttl now = false) (idle : (knownAfter s h issuer).flight = none) :
    Launches s issuer h ⟨now, .call caller (.key issuer keyId)⟩ := by
  obtain ⟨address, there⟩ := Option.ne_none_iff_exists'.1 registered
  have registered' : s.address? (Call.key issuer keyId).issuer = some address := there
  have miss : (Call.key issuer keyId).isMiss s.ttl now (knownAfter s h issuer) = true := by
    rw [Call.isMiss, old, Bool.false_and, Bool.not_false]
  have free : (Call.key issuer keyId).isSpared s now (knownAfter s h issuer) = false := by
    rw [Call.isSpared, old, Bool.false_and]
  obtain ⟨st₀, -, loads⟩ := loads_of_miss s caller registered' miss fun _ => free
  exact ⟨idle, loads.flight_ne_none⟩

end Search

/-- **What the cooldown does to a search.** -/
structure Paced (p : Inquiry) (issuer keyId : String) : Prop where
  /-- If it begins a fetch though the set is unexpired, then at least the cooldown after every fetch that began
  before. -/
  spaced : (p.known s).isYoung s.ttl p.now = true → Launches s issuer p.before p.moment →
    ∀ m before, m :: before <:+ p.before → Launches s issuer before m → s.cooldown ≤ p.now - m.now
  /-- Sooner than that it finds nothing, and begins none. -/
  cutShort : (p.known s).isYoung s.ttl p.now = true → (p.known s).held? keyId = none →
    (p.known s).flight = none →
    ∀ m before, m :: before <:+ p.before → Launches s issuer before m → p.now - m.now < s.cooldown →
    effectsAt s p.before p.moment =
      [.log (.texts .debug "Unknown kid during refresh cooldown" [("issuer", issuer), ("kid", keyId)]),
        .answer p.caller (.key none)] ∧
    ¬Launches s issuer p.before p.moment
  /-- Where no set is held, or an expired one, it begins a fetch whatever the cooldown says, unless one is
  under way. -/
  unspared : (p.known s).isYoung s.ttl p.now = false → s.address? issuer ≠ none →
    (p.known s).flight = none → Launches s issuer p.before p.moment

/-- **The cooldown spaces the fetches of an unexpired set.** -/
theorem cooldown_spaces (positive : 0 < s.cooldown) {p : Inquiry} {issuer keyId : String}
    (asks : p.call = .key issuer keyId) (forward : Forward (p.moment :: p.before)) :
    Paced s p issuer keyId := by
  obtain ⟨now, caller, c, before⟩ := p
  cases asks
  refine ⟨?_, ?_, ?_⟩
  · intro young launches m before' part launched
    have ended := not_inCooldown_of_launches young launches
    exact le_elapsed forward part launched positive ended
  · intro young missing idle m before' part launched recent
    have cooldown := inCooldown_of_recent forward part launched positive recent
    refine ⟨effectsAt_of_inCooldown caller young missing idle cooldown, fun launches => ?_⟩
    exact absurd (cooldown.symm.trans (not_inCooldown_of_launches young launches)) (by simp)
  · intro old registered idle
    exact launches_of_not_isYoung caller keyId registered old idle

/-- One issuer, with a cooldown of ten seconds. -/
def patient : Settings := { sources := [("iss-1", "https://idp.test/certs")], cooldown := 10000 }

/-- A search fetches a document without keys, and one within the cooldown is cut short. -/
def supplied : History :=
  [⟨5000, .call 1 (.key "iss-1" "b")⟩,
    ⟨20, .fetchEnd "iss-1" (.document (some (.object [("keys", .array [])])))⟩,
    ⟨0, .call 0 (.key "iss-1" "a")⟩]

/-- The next search begins a fetch as soon as the cooldown is over. -/
theorem cooldown_spaces_unknown_keys :
    0 < patient.cooldown ∧ Forward (⟨10000, .call 2 (.key "iss-1" "c")⟩ :: supplied) ∧
      Launches patient "iss-1" supplied ⟨10000, .call 2 (.key "iss-1" "c")⟩ ∧
      Paced patient ⟨10000, 2, .key "iss-1" "c", supplied⟩ "iss-1" "c" := by
  have positive : 0 < patient.cooldown := by decide +kernel
  have forward : Forward (⟨10000, .call 2 (.key "iss-1" "c")⟩ :: supplied) :=
    ⟨by decide +kernel, by decide +kernel⟩
  have launches : Launches patient "iss-1" supplied ⟨10000, .call 2 (.key "iss-1" "c")⟩ :=
    ⟨by decide +kernel, by decide +kernel⟩
  exact ⟨positive, forward, launches, cooldown_spaces patient positive rfl forward⟩

/-! ### Where it does not hold -/

/-- Any two fetches of an issuer begin at least the cooldown apart. -/
def Apart (issuer : String) (h : History) : Prop :=
  ∀ m before m' before', m :: before <:+ h → Launches s issuer before m →
    m' :: before' <:+ before → Launches s issuer before' m' → s.cooldown ≤ m.now - m'.now

/-- The first fetch fails, and there is another search at once. -/
def refused : History :=
  [⟨0, .call 1 (.key "iss-1" "b")⟩, ⟨0, .fetchEnd "iss-1" .failed⟩, ⟨0, .call 0 (.key "iss-1" "a")⟩]

/-- **While no set is held, searches fetch at once, one after the other.** -/
theorem not_apart_without_set :
    0 < patient.cooldown ∧ Forward refused ∧ ¬Apart patient "iss-1" refused := by
  refine ⟨by decide +kernel, ⟨by decide +kernel, by decide +kernel⟩, fun apart => ?_⟩
  have later : Launches patient "iss-1" refused.tail ⟨0, .call 1 (.key "iss-1" "b")⟩ :=
    ⟨by decide +kernel, by decide +kernel⟩
  have earlier : Launches patient "iss-1" [] ⟨0, .call 0 (.key "iss-1" "a")⟩ :=
    ⟨by decide +kernel, by decide +kernel⟩
  have spaced := apart _ _ _ _ (List.suffix_refl _) later (List.suffix_cons _ _) earlier
  exact absurd spaced (by decide +kernel)

end KeyCache

end BearerGate
