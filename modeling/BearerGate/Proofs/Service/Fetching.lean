import BearerGate.Proofs.Config.Safety
import BearerGate.Proofs.KeySet.Fitness
import BearerGate.Proofs.KeySet.Transparency
import BearerGate.Proofs.Service.Readiness
import BearerGate.Proofs.Service.Searching

/-!
# Which settings can fetch keys

A fetch is sent under a timer, and a timer can be set only to a whole number of milliseconds below `2^32`.  Settings are
accepted with any whole number above zero for it, so there are settings that are accepted, and make a service, with
which no fetch is ever sent (`Instance.NeverFetches`): every fetch has failed before, every search is told that the keys
cannot be had, as if the issuer were out of reach, and every probe that the service is not ready.  With a time that fits
(`Instance.CanFetch`) the first call about the issuer sends a request to the address of the settings, and a document
with usable keys makes the service ready.  There is nothing else to it (`fetches_iff_timer_fits`): no other setting that
is accepted keeps a fetch from being sent.
-/

namespace BearerGate

open KeyCache

namespace KeyCache

variable {k : Settings} {issuer : String}

/-! ### Caches that can fetch -/

/-- A cache can fetch if its time for a fetch fits a timer. -/
theorem canFetch_eq_of_toNat? {ms : Nat} (natural : k.fetchTimeout.toNat? = some ms) :
    k.canFetch = decide (ms < 2 ^ 32) := by
  rw [Settings.canFetch, natural]
  rfl

/-- **While nothing is held, a call that finds no fetch under way sends one request.** -/
theorem effectsAt_of_nothing (can : k.canFetch = true) {address : String}
    (registered : k.address? issuer = some address) {h : History} (nothing : (knownAfter k h issuer).keys = none)
    (idle : (knownAfter k h issuer).flight = none) (now : Number) (caller : Nat) {c : Call}
    (about : c.issuer = issuer) : effectsAt k h ⟨now, .call caller c⟩ = [.send issuer address] := by
  have not_young : (knownAfter k h issuer).isYoung k.ttl now ≠ true := by
    rw [IssuerState.isYoung, nothing]
    exact Bool.false_ne_true
  have sends : ∀ (st : State), (∀ name, st.issuer name = (stateAfter k h).issuer name) →
      ∀ {address' : String} {w : Waiter} {result : State × List Effect}, k.address? issuer = some address' →
        Loads k now st issuer address' w result → result.2 = [.send issuer address] := by
    intro st same address' w result there loads
    cases registered.symm.trans there
    cases loads with
    | joins under_way =>
      rw [same] at under_way
      exact absurd (idle.symm.trans under_way) (by simp)
    | sends _ _ => rfl
    | fails _ cannot => exact absurd (can.symm.trans cannot) (by simp)
  have begins := begins_call k h now caller c
  generalize stateAfter k (⟨now, .call caller c⟩ :: h) = st' at begins
  generalize effectsAt k h ⟨now, .call caller c⟩ = effects at begins ⊢
  subst about
  cases begins with
  | stranger absent => exact absurd (registered.symm.trans absent) (by simp)
  | hit there young held => exact absurd young not_young
  | cooling there young missing idle cooldown => exact absurd young not_young
  | searches there miss free loads => exact sends (stateAfter k h).countMiss (fun _ => rfl) there loads
  | strangerRefresh absent => exact absurd (registered.symm.trans absent) (by simp)
  | refreshes there loads => exact sends (stateAfter k h) (fun _ => rfl) there loads

/-- So the first request is out until its fetch ends. -/
theorem isOut_of_first (can : k.canFetch = true) {address : String} (registered : k.address? issuer = some address)
    (now : Number) (caller : Nat) {c : Call} (about : c.issuer = issuer) :
    isOut k issuer [⟨now, .call caller c⟩] = true := by
  rw [isOut, effectsAt_of_nothing can registered rfl rfl now caller about, sendsTo]
  simp [Effect.sent?]

/-! ### Caches that cannot -/

section Cannot

variable (cannot : k.canFetch = false)
include cannot

/-- **Nothing is ever sent.** -/
theorem not_sent (h : History) (name address : String) : ¬KeySession.HadEffect k h (.send name address) := by
  rintro ⟨m, before, -, sent⟩
  obtain ⟨-, caller, c, is_call, rfl⟩ := registered_of_send k before m sent
  obtain ⟨now, event⟩ := m
  cases is_call
  have out : isOut k c.issuer (⟨now, .call caller c⟩ :: before) = true := by
    rw [isOut, Bool.or_eq_true]
    exact .inl (List.any_eq_true.2 ⟨_, sent, by simp [Effect.sent?]⟩)
  exact absurd ((canFetch_of_isOut k out).symm.trans cannot) (by simp)

theorem not_brought (h : History) (m : Moment) : brought? k issuer h m = none := by
  cases brings : brought? k issuer h m with
  | none => rfl
  | some brought =>
    obtain ⟨document, -, out, -⟩ := document_of_brought k brings
    exact absurd ((canFetch_of_isOut k out).symm.trans cannot) (by simp)

/-- **Nothing is ever held.** -/
theorem keys_eq_none (h : History) : (knownAfter k h issuer).keys = none := by
  induction h with
  | nil => rfl
  | cons m h ih => rw [(kept_of_not_brought k (not_brought cannot h m)).1, ih]

/-- **Every call is told that the keys are unavailable,** for the reason for which an issuer is out of reach. -/
theorem unavailable_of_reply (registered : k.address? issuer ≠ none) {h : History} {m : Moment} {p : Inquiry}
    {a : CallAnswer} (about : p.call.issuer = issuer) (reply : (p, a) ∈ repliesAt k h m) :
    ∃ cause, a = .unavailable cause ∧ cause.reason = .keySetUnavailable := by
  have bare : (p.known k).keys = none := keys_eq_none cannot p.before
  have not_young : (p.known k).isYoung k.ttl p.now ≠ true := by
    rw [IssuerState.isYoung, bare]
    exact Bool.false_ne_true
  have no_fallback : ∀ keyId, (p.known k).fallback? k.ttl p.now keyId = none := by
    intro keyId
    rw [IssuerState.fallback?, IssuerState.held?, bare]
    split <;> rfl
  rcases hears_of_reply k reply with ⟨-, -, at_once⟩ | ⟨now, name, outcome, result, rfl, waits, heard, rfl⟩
  · obtain ⟨time, caller, c, before⟩ := p
    subst about
    cases at_once with
    | stranger absent => exact absurd absent registered
    | hit there young held => exact absurd young not_young
    | cooling there young missing => exact absurd young not_young
    | strangerRefresh absent => exact absurd absent registered
  · cases heard with
    | brings brought held => exact absurd ((not_brought cannot _ _).symm.trans brought) (by simp)
    | @fails cause nothing unavailable =>
      refine ⟨cause, ?_, unavailable.reason⟩
      rw [Inquiry.want]
      cases p.call with
      | refresh _ => rfl
      | key _ keyId =>
        rw [Call.want, no_fallback]
        rfl

end Cannot

end KeyCache

/-! ### Services -/

/-- **The settings of the key cache** of a service. -/
def Config.keySettings (c : Config) (address : String) : KeyCache.Settings where
  sources := [(c.auth.issuer, address)]
  ttl := c.auth.jwksCacheTtlMs
  cooldown := c.auth.jwksRefreshCooldownMs
  fetchTimeout := c.auth.jwksFetchTimeoutMs

theorem Config.address?_keySettings (c : Config) (address : String) :
    (c.keySettings address).address? c.auth.issuer = some address := by
  rw [Settings.address?, keySettings, List.reverse_singleton, Table.get?_cons, if_pos rfl]

/-- **What a service is made of** that was built from settings: its endpoints, and a cache for its issuer. -/
structure Instance.MadeOf (c : Config) (i : Instance) (s : Service) (endpoints : List Endpoint) (address : String) :
    Prop where
  responds : i.respond = BearerGate.respond s endpoints
  endpoints : ∃ extra, endpoints = c.serviceName.endpoints ++ extra
  issuer : i.issuer = c.auth.issuer
  parsed : ∃ url, Url.parse? c.auth.jwksUri none = some url ∧ address = url.href
  settings : i.keys.settings = c.keySettings address

theorem Instance.madeOf_of_ofConfig {name : String} {c : Config} {check : SignatureCheck} {clock : Number}
    {script : Script FetchStep} {products : List Members} {probes : Bool} {i : Instance}
    (built : Instance.ofConfig name c check clock script products probes = some i) :
    ∃ s endpoints address, i.MadeOf c s endpoints address := by
  unfold Instance.ofConfig at built
  split at built
  · rename_i service url _ parsed
    cases built
    exact ⟨service, _, url.href, rfl, ⟨_, rfl⟩, rfl, ⟨url, parsed, rfl⟩, rfl⟩
  · cases built

/-- **A service that can fetch keys.** -/
structure Instance.CanFetch (i : Instance) (s : Service) (endpoints : List Endpoint) (address : String) : Prop where
  /-- As long as nothing is held, every call about its issuer that finds no fetch under way sends one request, to the
  address of the settings; so does the very first. -/
  sends : ∀ h now caller (call : Call), call.issuer = i.issuer →
    (knownAfter i.keys.settings h i.issuer).keys = none → (knownAfter i.keys.settings h i.issuer).flight = none →
    effectsAt i.keys.settings h ⟨now, .call caller call⟩ = [.send i.issuer address]
  /-- If the first request is answered with a document that has usable keys, the probe that waits for it is told how
  many. -/
  ready : ∀ r : Request, r.AsksForPage "ready" → r.Deliverable → ∀ arrival now caller later outcome keys,
    FetchOutcome.published? i.keys.settings.importKey outcome = some keys → keys ≠ [] →
    ∃ (v : Visit) (own : Reply), v.request = r ∧ v.arrival = arrival ∧
      v.Answered s endpoints "ready" i.keys.settings i.issuer [] [⟨now, caller, .refresh i.issuer, []⟩]
        [⟨later, .fetchEnd i.issuer outcome⟩, ⟨now, .call caller (.refresh i.issuer)⟩] own ∧
      own.TellsReadiness keys.length

/-- **A service that never fetches any keys.** -/
structure Instance.NeverFetches (i : Instance) (s : Service) (endpoints : List Endpoint) : Prop where
  silent : ∀ h name address, ¬KeySession.HadEffect i.keys.settings h (.send name address)
  /-- Every call is told that the keys cannot be had, though nobody was asked for them. -/
  outage : ∀ h m (p : Inquiry) a, p.call.issuer = i.issuer → (p, a) ∈ repliesAt i.keys.settings h m →
    ∃ cause, a = .unavailable cause ∧ cause.reason = .keySetUnavailable
  /-- Every probe is told that the service is not ready. -/
  unready : ∀ (v : Visit) h calls h' own,
    v.Answered s endpoints "ready" i.keys.settings i.issuer h calls h' own → own.status = 503

section Built

variable {c : Config} {i : Instance} {s : Service} {endpoints : List Endpoint} {address : String}

theorem Instance.MadeOf.registered (made : i.MadeOf c s endpoints address) :
    i.keys.settings.address? i.issuer = some address := by
  rw [made.settings, made.issuer]
  exact c.address?_keySettings address

theorem Instance.MadeOf.canFetch (made : i.MadeOf c s endpoints address) (can : i.keys.settings.canFetch = true) :
    i.CanFetch s endpoints address := by
  obtain ⟨extra, rfl⟩ := made.endpoints
  refine ⟨?_, ?_⟩
  · intro h now caller call about nothing idle
    exact effectsAt_of_nothing can made.registered nothing idle now caller about
  · intro r asks deliverable arrival now caller later outcome keys published some_usable
    have silent : answersAt i.keys.settings [] ⟨now, .call caller (.refresh i.issuer)⟩ = [] := by
      rw [answersAt, effectsAt_of_nothing can made.registered rfl rfl now caller rfl]
      rfl
    have waits : (⟨now, caller, .refresh i.issuer, []⟩ : Inquiry) ∈
        waiting i.keys.settings i.issuer [⟨now, .call caller (.refresh i.issuer)⟩] := by
      have waiting_now := waiting_call_of_silent silent
      change waiting i.keys.settings i.issuer _ = _ at waiting_now
      rw [waiting_now]
      exact List.mem_append_right _ (List.mem_singleton.2 rfl)
    have brings : brought? i.keys.settings i.issuer [⟨now, .call caller (.refresh i.issuer)⟩]
        ⟨later, .fetchEnd i.issuer outcome⟩ = some (later, keys) := by
      rw [brought?, if_pos ⟨rfl, isOut_of_first can made.registered now caller rfl⟩, published]
      rfl
    obtain ⟨v, own, arrived, came, answered⟩ := exists_answered_of_waiting s c.serviceName extra asks deliverable
      arrival rfl rfl waits later outcome
    refine ⟨v, own, arrived, came, answered, ?_⟩
    obtain ⟨asked, told, probed⟩ := probed_of_probing answered.probing answered.beside
    have last : told = [⟨later, .fetchEnd i.issuer outcome⟩, ⟨now, .call caller (.refresh i.issuer)⟩] := by
      -- The probe has called, so its answer is the end of a fetch, and there is only one.
      rcases Nat.eq_zero_or_pos (heldCount i.keys.settings i.issuer asked) with bare | held
      · obtain ⟨p, -, -, -, joins⟩ := probed.bare bare
        obtain ⟨now', outcome', b, ends, -⟩ := (joins (by rw [made.registered]; exact Option.some_ne_none _)).ends
        have part := probed.order.2.2
        rw [ends] at part ⊢
        rcases List.suffix_cons_iff.1 part with same | earlier
        · exact same
        · rcases List.suffix_cons_iff.1 earlier with same | none_left
          · cases same
          · exact absurd (List.suffix_nil.1 none_left) (List.cons_ne_nil _ _)
      · exact absurd (probed.supplied held).1 (List.cons_ne_nil _ _)
    have tells := probed.tells
    rw [last, heldCount_of_brought brings] at tells
    exact tells

theorem Instance.MadeOf.neverFetches (made : i.MadeOf c s endpoints address)
    (cannot : i.keys.settings.canFetch = false) : i.NeverFetches s endpoints := by
  obtain ⟨extra, rfl⟩ := made.endpoints
  refine ⟨not_sent cannot, ?_, ?_⟩
  · intro h m p a about reply
    have registered : i.keys.settings.address? i.issuer ≠ none := by
      rw [made.registered]
      exact Option.some_ne_none address
    exact unavailable_of_reply cannot registered about reply
  · intro v h calls h' own answered
    obtain ⟨asked, told, probed⟩ := probed_of_probing answered.probing answered.beside
    have nothing : heldCount i.keys.settings i.issuer told = 0 := by
      rw [heldCount, keys_eq_none cannot]
      rfl
    exact (probed.tells.unready nothing).1

end Built

/-! ### Settings -/

namespace Config

/-- **What settings come to,** by the milliseconds that they give a fetch: a service can be built from them, and that can
fetch keys if the time fits a timer, and else never fetches any. -/
structure FetchesByTimer (c : Config) (ms : Nat) : Prop where
  time : c.auth.jwksFetchTimeoutMs.toNat? = some ms
  positive : 0 < ms
  built : ∀ name check clock script products probes, ∃ i s endpoints address,
    Instance.ofConfig name c check clock script products probes = some i ∧ i.MadeOf c s endpoints address ∧
      (ms < 2 ^ 32 → i.CanFetch s endpoints address) ∧ (2 ^ 32 ≤ ms → i.NeverFetches s endpoints)

theorem Safe.fetchesByTimer {env : Env} {c : Config} (safe : c.Safe env) {ms : Nat}
    (time : c.auth.jwksFetchTimeoutMs.toNat? = some ms) : c.FetchesByTimer ms := by
  refine ⟨time, ?_, ?_⟩
  · obtain ⟨k, natural⟩ := safe.fetchTimeout
    cases time.symm.trans natural
    exact Nat.succ_pos k
  · intro name check clock script products probes
    obtain ⟨i, built⟩ := (safe.builds check).2.2 name clock script products probes
    obtain ⟨s, endpoints, address, made⟩ := Instance.madeOf_of_ofConfig built
    have can : i.keys.settings.canFetch = decide (ms < 2 ^ 32) := by
      rw [made.settings]
      exact canFetch_eq_of_toNat? time
    refine ⟨i, s, endpoints, address, built, made, fun fits => ?_, fun overlong => ?_⟩
    · exact made.canFetch (can.trans (decide_eq_true fits))
    · exact made.neverFetches (can.trans (decide_eq_false overlong.not_gt))

/-- **Settings that are accepted fetch keys exactly if their time for a fetch fits a timer.** -/
theorem fetches_iff_timer_fits {env : Env} {c : Config} (accepted : ofEnv env = .fine c) :
    ∃ ms, c.FetchesByTimer ms := by
  have safe := safe_of_ofEnv accepted
  obtain ⟨k, time⟩ := safe.fetchTimeout
  exact ⟨k + 1, safe.fetchesByTimer time⟩

/-- An environment with a time for a fetch. -/
def timedEnv (ms : String) : Env :=
  [("SERVICE_NAME", "user-service"), ("AUTH_ISSUER", "https://idp.test/realms/demo"),
    ("AUTH_AUDIENCE", "demo-client"), ("AUTH_JWKS_URI", "https://idp.test/certs"), ("AUTH_JWKS_FETCH_TIMEOUT_MS", ms)]

theorem exists_accepted {env : Env} {ms : Nat}
    (computed : ((ofEnv env).value?.bind fun c => c.auth.jwksFetchTimeoutMs.toNat?) = some ms) :
    ∃ c, ofEnv env = .fine c ∧ c.auth.jwksFetchTimeoutMs.toNat? = some ms := by
  obtain ⟨c, made, time⟩ := Option.bind_eq_some_iff.1 computed
  cases read : ofEnv env with
  | faulty first others =>
    rw [read] at made
    cases made
  | fine c' =>
    rw [read] at made
    cases made
    exact ⟨c, rfl, time⟩

/-- The longest time that fits. -/
theorem fetches_by_longest_timer : ∃ c, ofEnv (timedEnv "4294967295") = .fine c ∧ c.FetchesByTimer 4294967295 := by
  have computed : ((ofEnv (timedEnv "4294967295")).value?.bind fun c => c.auth.jwksFetchTimeoutMs.toNat?) =
      some 4294967295 := by decide +kernel
  obtain ⟨c, accepted, time⟩ := exists_accepted computed
  obtain ⟨ms, fetches⟩ := fetches_iff_timer_fits accepted
  cases fetches.time.symm.trans time
  exact ⟨c, accepted, fetches⟩

/-- **A millisecond more is accepted all the same,** and makes a service that never fetches any keys. -/
theorem overlong_timer_never_fetches :
    ∃ c, ofEnv (timedEnv "4294967296") = .fine c ∧ ∀ name check clock script products probes,
      ∃ i s endpoints address, Instance.ofConfig name c check clock script products probes = some i ∧
        i.MadeOf c s endpoints address ∧ i.NeverFetches s endpoints := by
  have computed : ((ofEnv (timedEnv "4294967296")).value?.bind fun c => c.auth.jwksFetchTimeoutMs.toNat?) =
      some 4294967296 := by decide +kernel
  obtain ⟨c, accepted, time⟩ := exists_accepted computed
  refine ⟨c, accepted, fun name check clock script products probes => ?_⟩
  obtain ⟨i, s, endpoints, address, built, made, -, never⟩ :=
    ((safe_of_ofEnv accepted).fetchesByTimer time).built name check clock script products probes
  exact ⟨i, s, endpoints, address, built, made, never (Nat.le_refl _)⟩

end Config

end BearerGate
