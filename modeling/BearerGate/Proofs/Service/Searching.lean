import BearerGate.Proofs.Gate.Stages
import BearerGate.Proofs.KeySet.Provenance
import BearerGate.Proofs.Service.Deployment

/-!
# When keys are searched for, and where

A token comes from anyone, so what it makes a service do before it is verified has to be little and has to be
nothing of the token's choosing.  A validation searches for one key at most, and only for a token that is written
as tokens are, names an accepted algorithm and has a key id (`Validator.AsksWhenNeeded`); every other token is
turned away with nothing touched.  The search is made under the issuer that the service is set up with, and
whatever the service has been asked, its cache has sent requests to one address only (`Instance.LooksAtHome`).
-/

namespace BearerGate

open KeyCache

/-! ### One validation -/

/-- A search that is noted. -/
def noting {σ : Type} (lookup : String → StateM σ KeyAnswer) (keyId : String) :
    StateM (σ × List String) KeyAnswer :=
  fun w => ((lookup keyId w.1).1, (lookup keyId w.1).2, w.2 ++ [keyId])

/-- What is done beside the notes. -/
def besideNotes {σ α : Type} (x : StateM σ α) : StateM (σ × List String) α :=
  fun w => ((x w.1).1, (x w.1).2, w.2)

namespace Validator

/-- **The key ids that a validation searches for,** in their order. -/
def searches {σ : Type} (v : Validator) (check : SignatureCheck) (lookup : String → StateM σ KeyAnswer)
    (now : StateM σ Number) (raw : String) (st : σ) : List String :=
  (v.validate check (noting lookup) (besideNotes now) raw (st, [])).2.2

/-- **A validation searches for a key only if it needs one.** -/
structure AsksWhenNeeded (v : Validator) (check : SignatureCheck) (raw : String) : Prop where
  once : ∀ (σ : Type) lookup now (st : σ), (v.searches check lookup now raw st).length ≤ 1
  /-- It searches for the key id of a token that is written as tokens are and names an accepted algorithm. -/
  needed : ∀ (σ : Type) lookup now (st : σ) keyId, keyId ∈ v.searches check lookup now raw st ↔
    ∃ t a, Token.Written raw t ∧ Token.Eligible v t a keyId
  /-- Any other text is turned away, and the state of whoever answers searches, be it a cache with all its
  counts and its requests, stays as it is. -/
  needless : (∀ t a keyId, Token.Written raw t → ¬Token.Eligible v t a keyId) →
    ∃ passed cause, (cause.reason = .malformed ∨ cause.reason = .signatureInvalid) ∧
      ∀ (σ : Type) (lookup : String → StateM σ KeyAnswer) now (st : σ),
        v.validate check lookup now raw st = (.reject passed cause, st)

theorem searches_of_settled {v : Validator} {check : SignatureCheck} {raw : String} {r : Validation}
    (planned : v.plan check raw = .settled r) {σ : Type} (lookup : String → StateM σ KeyAnswer)
    (now : StateM σ Number) (st : σ) : v.searches check lookup now raw st = [] := by
  rw [searches, validate, planned]
  rfl

theorem searches_of_needsKey {v : Validator} {check : SignatureCheck} {raw keyId : String}
    {resume : KeyAnswer → Number → Validation} (planned : v.plan check raw = .needsKey keyId resume) {σ : Type}
    (lookup : String → StateM σ KeyAnswer) (now : StateM σ Number) (st : σ) :
    v.searches check lookup now raw st = [keyId] := by
  rw [searches, validate, planned]
  rfl

/-- A text that is turned away without a key is no token, or has no algorithm or key id to go by. -/
theorem reason_of_plan_eq_settled {v : Validator} {check : SignatureCheck} {raw : String} {r : Validation}
    (planned : v.plan check raw = .settled r) :
    ∃ passed cause, r = .reject passed cause ∧
      (cause.reason = .malformed ∨ cause.reason = .signatureInvalid) := by
  unfold plan at planned
  split at planned
  · rename_i cause fails
    cases planned
    exact ⟨_, cause, rfl, .inl (reason_of_ofText fails)⟩
  · split at planned
    · cases planned
      exact ⟨_, _, rfl, .inr rfl⟩
    · split at planned
      · split at planned
        · cases planned
          exact ⟨_, _, rfl, .inr rfl⟩
        · cases planned
      · cases planned
        exact ⟨_, _, rfl, .inr rfl⟩

theorem asksWhenNeeded (v : Validator) (check : SignatureCheck) (raw : String) : v.AsksWhenNeeded check raw := by
  cases planned : v.plan check raw with
  | settled r =>
    obtain ⟨passed, cause, rfl, reason⟩ := reason_of_plan_eq_settled planned
    refine ⟨?_, ?_, ?_⟩
    · intro σ lookup now st
      rw [searches_of_settled planned]
      exact Nat.zero_le 1
    · intro σ lookup now st keyId
      rw [searches_of_settled planned]
      constructor
      · exact fun no => absurd no List.not_mem_nil
      · rintro ⟨t, a, written, eligible⟩
        have needs : v.plan check raw = .needsKey keyId (v.resumption check t a) :=
          plan_eq_needsKey_iff.2 ⟨t, a, written, eligible, rfl⟩
        cases planned.symm.trans needs
    · refine fun _ => ⟨passed, cause, reason, fun σ lookup now st => ?_⟩
      rw [validate, planned]
      rfl
  | needsKey keyId resume =>
    obtain ⟨t, a, written, eligible, -⟩ := plan_eq_needsKey_iff.1 planned
    refine ⟨?_, ?_, fun none_eligible => absurd eligible (none_eligible t a keyId written)⟩
    · intro σ lookup now st
      rw [searches_of_needsKey planned]
      exact Nat.le_refl 1
    · intro σ lookup now st keyId'
      rw [searches_of_needsKey planned, List.mem_singleton]
      constructor
      · rintro rfl
        exact ⟨t, a, written, eligible⟩
      · rintro ⟨t', a', written', eligible'⟩
        have needs : v.plan check raw = .needsKey keyId' (v.resumption check t' a') :=
          plan_eq_needsKey_iff.2 ⟨t', a', written', eligible', rfl⟩
        cases planned.symm.trans needs
        rfl

end Validator

/-! ### Deployed services -/

/-- **A service looks for keys at home:** at the issuer and the address that it is set up with. -/
structure Instance.LooksAtHome (c : Config) (i : Instance) : Prop where
  /-- A question for a key is a search under the issuer of the configuration, whatever else a token has said. -/
  asks : ∀ (d : Deployment) serve keyId, d.find? i.name = some i →
    (Deployment.answer serve i.name (.key keyId) d).1 =
      KeySession.keyAnswer (({ i.keys with clock := d.clock } : KeySession).call (.key c.auth.issuer keyId)).2
  /-- All that its cache was ever called for was about that issuer, and every request that it has sent went
  to the address of the configuration. -/
  cache : ∃ h url, Url.parse? c.auth.jwksUri none = some url ∧ i.keys.state = stateAfter i.keys.settings h ∧
    (∀ m ∈ h, ∀ caller call, m.event = .call caller call → call.issuer = c.auth.issuer) ∧
    ∀ issuer address, KeySession.HadEffect i.keys.settings h (.send issuer address) →
      issuer = c.auth.issuer ∧ address = url.href
  /-- So are the addresses that are fetched during the next call. -/
  fetches : ∃ url, Url.parse? c.auth.jwksUri none = some url ∧
    ∀ clock call, ∀ address ∈ (({ i.keys with clock } : KeySession).call call).1.addresses, address = url.href

/-- A cache that is set up with one source sends requests to that source only. -/
theorem source_of_send {settings : KeyCache.Settings} {name address : String}
    (sources : settings.sources = [(name, address)]) {h : History} {issuer target : String}
    (had : KeySession.HadEffect settings h (.send issuer target)) : issuer = name ∧ target = address := by
  obtain ⟨m, before, -, sent⟩ := had
  have registered := (registered_of_send settings before m sent).1
  rw [Settings.address?, sources, List.reverse_singleton, Table.get?_cons] at registered
  split at registered
  · rename_i same
    exact ⟨same.symm, (Option.some.inj registered).symm⟩
  · cases registered

/-- **What a service is when it has just been built:** its issuer and the one source of its keys are those of
the configuration, and its cache has been through nothing. -/
structure Instance.Fresh (name : String) (c : Config) (i : Instance) (url : Url) : Prop where
  named : i.name = name
  unbroken : i.keyBreakdown = none
  parsed : Url.parse? c.auth.jwksUri none = some url
  issuer : i.issuer = c.auth.issuer
  sources : i.keys.settings.sources = [(c.auth.issuer, url.href)]
  state : i.keys.state = stateAfter i.keys.settings []
  addresses : i.keys.addresses = []

theorem Instance.fresh_of_ofConfig {name : String} {c : Config} {check : SignatureCheck} {clock : Number}
    {script : Script FetchStep} {products : List Members} {probes : Bool} {i : Instance}
    (built : Instance.ofConfig name c check clock script products probes = some i) :
    ∃ url, i.Fresh name c url := by
  unfold Instance.ofConfig at built
  split at built
  · rename_i service url _ parsed
    cases built
    exact ⟨url, rfl, rfl, parsed, rfl, rfl, rfl, rfl⟩
  · cases built

/-- A service that was built looks for keys at home, and goes on to do so. -/
theorem Instance.Fresh.looksAtHome {name : String} {c : Config} {i i' : Instance} {url : Url}
    (fresh : i.Fresh name c url) (goes : i.GoesOn i') : i'.LooksAtHome c := by
  obtain ⟨h, -, settings, state, calls⟩ := goes.cache [] fresh.state
  have sources : i'.keys.settings.sources = [(c.auth.issuer, url.href)] := by rw [settings, fresh.sources]
  rw [← settings] at state
  refine ⟨?_, ⟨h, url, fresh.parsed, state, ?_, fun _ _ => source_of_send sources⟩, url, fresh.parsed, ?_⟩
  · intro d serve keyId there
    have unbroken : i'.keyBreakdown = none := by
      rw [goes.same]
      exact fresh.unbroken
    rw [Deployment.answer]
    simp only [there, unbroken]
    rw [Deployment.keyCall_eq, goes.issuer, fresh.issuer]
  · intro m member caller call is_call
    have about := (calls m member).resolve_left List.not_mem_nil caller call is_call
    rw [about, fresh.issuer]
  · intro clock call address member
    obtain ⟨h', answers, continues⟩ := KeySession.call_continues call { i'.keys with clock } h state
    have clean : i'.keys.addresses = [] := goes.addresses.elim (·.trans fresh.addresses) id
    rcases continues.fetched address member with old | ⟨issuer, had⟩
    · change address ∈ i'.keys.addresses at old
      rw [clean] at old
      cases old
    · exact (source_of_send sources had).2

namespace Deployment

/-- **Keys are searched for only where they are needed, and only at home:** whatever a validator is given, and
whatever a service that was built from a configuration has been asked. -/
theorem keys_searched (v : Validator) (check : SignatureCheck) (raw : String) {d : Deployment} {name : String}
    {c : Config} {check' : SignatureCheck} {clock : Number} {script : Script FetchStep}
    {products : List Members} {probes : Bool} {i : Instance}
    (built : Instance.ofConfig name c check' clock script products probes = some i)
    (there : d.find? name = some i) (run : List (String × Number × Request)) :
    v.AsksWhenNeeded check raw ∧ ∃ i', (d.after run).find? name = some i' ∧ i'.LooksAtHome c := by
  obtain ⟨i', there', goes⟩ := after_goesOn d run name i there
  obtain ⟨url, fresh⟩ := Instance.fresh_of_ofConfig built
  exact ⟨v.asksWhenNeeded check raw, i', there', fresh.looksAtHome goes⟩

/-- The settings of one service, which fetches keys from an address of its own. -/
def lonelyConfig : Config where
  environment := "production"
  serviceName := .userService
  host := "0.0.0.0"
  port := 8080
  logLevel := "info"
  corsAllowedOrigins := []
  downstreamTimeoutMs := 5000
  serviceUrls := []
  gatewayRoutes := []
  auth :=
    { issuer := "https://idp.test", audience := "shop", jwksUri := "https://keys.test/certs"
      rolesClaimPath := "roles", algorithms := [.rs256], clockToleranceSec := 0, jwksCacheTtlMs := 600000
      jwksRefreshCooldownMs := 10000, jwksFetchTimeoutMs := 5000 }

/-- Asked for a profile, the service goes on looking for keys at home. -/
theorem keys_searched_by_lonely_service :
    ∃ i, Instance.ofConfig "user-service" lonelyConfig .real 0 { steps := [] } [] false = some i ∧
      Validator.AsksWhenNeeded ⟨"https://idp.test", "shop", [.rs256], 0⟩ .real "e30.e30.e30" ∧
      ∃ i', (after { clock := 0, instances := [i] }
          [("user-service", 1000, { method := "GET", target := "/api/users/me" })]).find? "user-service" = some i' ∧
        i'.LooksAtHome lonelyConfig := by
  have built : (Instance.ofConfig "user-service" lonelyConfig .real 0 { steps := [] } [] false).isSome = true := by
    decide +kernel
  obtain ⟨i, built⟩ := Option.isSome_iff_exists.1 built
  obtain ⟨url, fresh⟩ := Instance.fresh_of_ofConfig built
  have there : ({ clock := 0, instances := [i] } : Deployment).find? "user-service" = some i := by
    rw [find?, List.find?_cons, decide_eq_true fresh.named]
  exact ⟨i, built, keys_searched _ _ _ built there _⟩

end Deployment

end BearerGate
