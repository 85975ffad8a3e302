import BearerGate.Deployment
import BearerGate.Proofs.Number.Whole
import BearerGate.Proofs.Schema.Checked
import BearerGate.Proofs.Text.Distinct
import BearerGate.Proofs.Text.Trim

/-!
# Settings that are accepted are safe to run with

An environment either has something wrong with it, or it makes settings that can be relied on without another
look: `Config.Safe` says of every setting what there is to rely on.  Each setting is looked at alone, by the
function that reads it; what is shown here of the functions is what they let pass.

A service can be built from such settings (`Config.Safe.builds`): the three parts of it that have checks of their own
ask for nothing that the settings do not have.
-/

namespace BearerGate

/-! ### Whole numbers -/

namespace Number

theorem zero_eq : (0 : Number) = finite 0 := by
  change ofNat 0 = finite 0
  rw [ofNat_of_small (by decide), Int.natCast_zero, Int.zero_mul]

/-- A whole number that is not negative is a natural number. -/
theorem exists_toNat? {n : Number} (whole : n.isInteger = true) (nonnegative : 0 ≤ n) :
    ∃ k, n.toNat? = some k := by
  obtain ⟨k, integer⟩ := Option.isSome_iff_exists.1 whole
  rw [toNat?, integer, Option.bind_some]
  rw [zero_eq] at nonnegative
  cases n with
  | finite steps =>
    have above : 0 ≤ steps := of_decide_eq_true nonnegative
    rw [toInt?] at integer
    split at integer
    · cases integer
      exact ⟨_, if_pos (Int.ediv_nonneg above (Int.natCast_nonneg scale))⟩
    · cases integer
  | _ => cases integer

/-- One that is above zero is a natural number above zero. -/
theorem exists_toNat?_succ {n : Number} (whole : n.isInteger = true) (positive : 0 < n) :
    ∃ k, n.toNat? = some (k + 1) := by
  have nonnegative : 0 ≤ n := by
    rw [zero_eq] at positive ⊢
    cases n with
    | finite steps =>
      have above : 0 < steps := of_decide_eq_true positive
      exact decide_eq_true (Int.le_of_lt above)
    | _ => exact positive
  obtain ⟨k, natural⟩ := exists_toNat? whole nonnegative
  cases k with
  | succ k => exact ⟨k, natural⟩
  | zero =>
    rw [toNat?_eq_some_iff.1 natural, zero_eq, Int.natCast_zero, Int.zero_mul] at positive
    exact absurd positive (by decide)

end Number

/-! ### Single settings -/

namespace Env

variable {path : List PathStep} {raw : Option String} {default : Nat}

theorem toNat?_of_nonnegativeWhole (small : default < 2 ^ 53) {n : Number}
    (fine : nonnegativeWhole path raw default = .fine n) : ∃ k, n.toNat? = some k := by
  cases raw with
  | none =>
    rw [← Checked.fine.inj fine]
    exact ⟨default, Number.toNat?_ofNat small⟩
  | some s =>
    obtain ⟨rfl, -, fault_free⟩ := eq_of_bounded_eq_fine fine
    exact Number.exists_toNat? (issue?_whole.1 (fault_free .whole (by simp)))
      (issue?_nonnegative.1 (fault_free .nonnegative (by simp)))

theorem toNat?_of_positiveWhole (small : default + 1 < 2 ^ 53) {n : Number}
    (fine : positiveWhole path raw (default + 1) = .fine n) : ∃ k, n.toNat? = some (k + 1) := by
  cases raw with
  | none =>
    rw [← Checked.fine.inj fine]
    exact ⟨default, Number.toNat?_ofNat small⟩
  | some s =>
    obtain ⟨rfl, -, fault_free⟩ := eq_of_bounded_eq_fine fine
    exact Number.exists_toNat?_succ (issue?_whole.1 (fault_free .whole (by simp)))
      (issue?_positive.1 (fault_free .positive (by simp)))

/-- A text that must be there and must not be blank is there, and what is left of it is its trimmed text. -/
theorem trimmed_of_required {absent blank : String} {s : String}
    (fine : required path absent raw (notBlank path blank) = .fine s) :
    ∃ text, raw = some text ∧ s = Text.trim text ∧ s ≠ "" := by
  cases raw with
  | none => cases fine
  | some text =>
    simp only [required, notBlank] at fine
    split at fine
    · cases fine
    · rename_i filled
      cases fine
      exact ⟨text, rfl, rfl, filled⟩

theorem eq_of_address {s kept : String} (fine : address path s = .fine kept) :
    kept = s ∧ ∃ url, Url.parse? s none = some url := by
  rw [address] at fine
  split at fine
  · rename_i parses
    cases fine
    exact ⟨rfl, Option.isSome_iff_exists.1 parses⟩
  · cases fine

theorem eq_of_listed {α : Type} {names : List String} {ofName? : String → Option α} {s : String} {a : α}
    (fine : Checked.listed path names ofName? s = .fine a) : ofName? s = some a := by
  rw [Checked.listed] at fine
  split at fine
  · rename_i b known
    cases fine
    exact known
  · cases fine

/-- **The names of algorithms in an environment,** or the one that stands for none. -/
def algorithmNames (env : Env) : List String :=
  if envList (env.get? "AUTH_ALGORITHMS") = [] then ["RS256"] else envList (env.get? "AUTH_ALGORITHMS")

theorem algorithmNames_ne_nil (env : Env) : algorithmNames env ≠ [] := by
  rw [algorithmNames]
  split
  · exact List.cons_ne_nil _ _
  · assumption

theorem nodup_algorithmNames (env : Env) : (algorithmNames env).Nodup := by
  rw [algorithmNames]
  split
  · exact List.nodup_cons.2 ⟨List.not_mem_nil, List.nodup_nil⟩
  · exact Text.nodup_distinct _

/-- The algorithms are those that are named, in their order. -/
theorem map_name_of_algorithms {env : Env} {as : List SigningAlgorithm} (fine : algorithms env = .fine as) :
    as.map SigningAlgorithm.name = algorithmNames env := by
  have each := map_eq_of_forAll fine
  rw [← algorithmNames] at each
  clear fine
  have names : (algorithmNames env).zipIdx.map (·.1) = algorithmNames env := List.zipIdx_map_fst 0 _
  rw [← names]
  generalize (algorithmNames env).zipIdx = listed at each ⊢
  induction listed generalizing as with
  | nil =>
    rw [List.map_nil, eq_comm, List.map_eq_nil_iff] at each
    rw [each]
    rfl
  | cons e listed ih =>
    cases as with
    | nil => cases each
    | cons a as =>
      rw [List.map_cons, List.map_cons] at each
      obtain ⟨first, others⟩ := List.cons.inj each
      rw [List.map_cons, List.map_cons, ih others]
      exact congrArg (· :: _) (SigningAlgorithm.ofName?_eq_some_iff.1 (eq_of_listed first))

theorem parses_of_jwksUri {env : Env} {uri : String} (fine : jwksUri env = .fine uri) :
    ∃ url, Url.parse? uri none = some url := by
  rw [jwksUri] at fine
  cases text : jwksUriText? env with
  | none =>
    rw [text] at fine
    cases fine
  | some s =>
    rw [text] at fine
    simp only [required] at fine
    obtain ⟨rfl, parses⟩ := eq_of_address fine
    exact parses

theorem parses_of_serviceUrls {env : Env} {urls : Table String} (fine : serviceUrls env = .fine urls) :
    ∀ e ∈ urls, ∃ url, Url.parse? e.2 none = some url := by
  intro e member
  obtain ⟨entry, -, checked⟩ := exists_of_forAll fine member
  cases parsed : address [.name "serviceUrls", .name entry.1] entry.2 with
  | faulty first others =>
    rw [parsed] at checked
    cases checked
  | fine kept =>
    rw [parsed] at checked
    cases checked
    obtain ⟨rfl, parses⟩ := eq_of_address parsed
    exact parses

end Env

/-! ### All settings -/

/-- **Settings that are safe to run with,** made from an environment. -/
structure Config.Safe (env : Env) (c : Config) : Prop where
  /-- The issuer and the audience are there, trimmed and not blank. -/
  issuer : ∃ text, env.get? "AUTH_ISSUER" = some text ∧ c.auth.issuer = Text.trim text ∧ c.auth.issuer ≠ ""
  audience : ∃ text, env.get? "AUTH_AUDIENCE" = some text ∧ c.auth.audience = Text.trim text ∧
    c.auth.audience ≠ ""
  /-- The algorithms are the ones that the environment names, all of them supported, at least one, each once. -/
  algorithms : c.auth.algorithms.map SigningAlgorithm.name = env.algorithmNames
  supported : ∀ name ∈ env.algorithmNames, name ∈ SigningAlgorithm.all.map SigningAlgorithm.name
  some_algorithm : c.auth.algorithms ≠ []
  distinct : c.auth.algorithms.Nodup
  /-- Numbers are whole; where nothing would be left of them at zero, they are above it. -/
  tolerance : ∃ k, c.auth.clockToleranceSec.toNat? = some k
  ttl : ∃ k, c.auth.jwksCacheTtlMs.toNat? = some k
  cooldown : ∃ k, c.auth.jwksRefreshCooldownMs.toNat? = some k
  port : ∃ k, c.port.toNat? = some (k + 1)
  fetchTimeout : ∃ k, c.auth.jwksFetchTimeoutMs.toNat? = some (k + 1)
  downstreamTimeout : ∃ k, c.downstreamTimeoutMs.toNat? = some (k + 1)
  /-- Addresses can be read, and gateway paths lead to services that there are. -/
  jwksUri : ∃ url, Url.parse? c.auth.jwksUri none = some url
  serviceUrls : ∀ e ∈ c.serviceUrls, ∃ url, Url.parse? e.2 none = some url
  gatewayRoutes : ∀ e ∈ c.gatewayRoutes,
    e.2.name ∈ ["gateway", "user-service", "product-service", "order-service"]
  /-- **A service can be built:** its registry, its validator and its key cache. -/
  builds : ∀ check, (∃ registry, Registry.ofTable? c.serviceUrls = some registry) ∧
    (∃ v, Validator.make c.auth.issuer c.auth.audience c.auth.algorithms c.auth.clockToleranceSec = .ok v) ∧
    ∀ name clock script products probes, ∃ i,
      Instance.ofConfig name c check clock script products probes = some i

/-- A registry can be made of addresses that can be read. -/
theorem Registry.exists_ofTable? {table : Table String}
    (parses : ∀ e ∈ table, ∃ url, Url.parse? e.2 none = some url) : ∃ registry, ofTable? table = some registry := by
  have all : ∃ entries, (table.mapM fun e => (Url.parse? e.2 none).map (e.1, ·)) = some entries := by
    induction table with
    | nil => exact ⟨[], rfl⟩
    | cons e table ih =>
      obtain ⟨url, parsed⟩ := parses e List.mem_cons_self
      obtain ⟨entries, rest⟩ := ih fun e' member => parses e' (List.mem_cons_of_mem e member)
      refine ⟨(e.1, url) :: entries, ?_⟩
      rw [List.mapM_cons, parsed, rest]
      rfl
  obtain ⟨entries, made⟩ := all
  exact ⟨⟨entries⟩, by rw [ofTable?, made]; rfl⟩

/-- A validator can be made for an issuer and an audience that are trimmed and not blank. -/
theorem Validator.exists_make {issuer audience : String} (issuer_trimmed : Text.trim issuer = issuer)
    (issuer_filled : issuer ≠ "") (audience_trimmed : Text.trim audience = audience)
    (audience_filled : audience ≠ "") (algorithms : List SigningAlgorithm) (tolerance : Number) :
    ∃ v, make issuer audience algorithms tolerance = .ok v := by
  rw [make, issuer_trimmed, audience_trimmed, if_neg issuer_filled, if_neg audience_filled]
  exact ⟨_, rfl⟩

/-- A service can be built where each of its parts can. -/
theorem Instance.exists_ofConfig {c : Config} {registry : Registry} {v : Validator} {url : Url}
    (resolves : Registry.ofTable? c.serviceUrls = some registry)
    (validates : Validator.make c.auth.issuer c.auth.audience c.auth.algorithms c.auth.clockToleranceSec = .ok v)
    (parsed : Url.parse? c.auth.jwksUri none = some url) (name : String) (check : SignatureCheck)
    (clock : Number) (script : Script FetchStep) (products : List Members) (probes : Bool) :
    ∃ i, Instance.ofConfig name c check clock script products probes = some i := by
  unfold Instance.ofConfig Service.ofConfig
  simp only [resolves, validates, parsed]
  exact ⟨_, rfl⟩

/-- The settings of an accepted environment about tokens were each accepted. -/
theorem Env.fine_of_authConfig {env : Env} {auth : AuthConfig} (fine : env.authConfig = .fine auth) :
    env.issuer = .fine auth.issuer ∧ env.audience = .fine auth.audience ∧ env.jwksUri = .fine auth.jwksUri ∧
      env.rolesClaimPath = .fine auth.rolesClaimPath ∧ env.algorithms = .fine auth.algorithms ∧
      nonnegativeWhole (inAuth "clockToleranceSec") (env.get? "AUTH_CLOCK_TOLERANCE_SEC") 0 =
        .fine auth.clockToleranceSec ∧
      nonnegativeWhole (inAuth "jwksCacheTtlMs") (env.get? "AUTH_JWKS_CACHE_TTL_MS") 600000 =
        .fine auth.jwksCacheTtlMs ∧
      nonnegativeWhole (inAuth "jwksRefreshCooldownMs") (env.get? "AUTH_JWKS_REFRESH_COOLDOWN_MS") 10000 =
        .fine auth.jwksRefreshCooldownMs ∧
      positiveWhole (inAuth "jwksFetchTimeoutMs") (env.get? "AUTH_JWKS_FETCH_TIMEOUT_MS") 5000 =
        .fine auth.jwksFetchTimeoutMs := by
  obtain ⟨_, _, fine₈, fetchTimeout, rfl⟩ := fine_of_seq fine
  obtain ⟨_, _, fine₇, cooldown, rfl⟩ := fine_of_seq fine₈
  obtain ⟨_, _, fine₆, ttl, rfl⟩ := fine_of_seq fine₇
  obtain ⟨_, _, fine₅, tolerance, rfl⟩ := fine_of_seq fine₆
  obtain ⟨_, _, fine₄, algorithms, rfl⟩ := fine_of_seq fine₅
  obtain ⟨_, _, fine₃, roles, rfl⟩ := fine_of_seq fine₄
  obtain ⟨_, _, fine₂, jwksUri, rfl⟩ := fine_of_seq fine₃
  obtain ⟨_, _, issuer, audience, rfl⟩ := fine_of_map_seq fine₂
  exact ⟨issuer, audience, jwksUri, roles, algorithms, tolerance, ttl, cooldown, fetchTimeout⟩

/-- The settings of an accepted environment were each accepted. -/
theorem Config.fine_of_ofEnv {env : Env} {c : Config} (fine : ofEnv env = .fine c) :
    env.serviceName = .fine c.serviceName ∧ env.host = .fine c.host ∧
      Env.positiveWhole (Env.topLevel "port") (env.get? "PORT") 8080 = .fine c.port ∧
      Env.positiveWhole (Env.topLevel "downstreamTimeoutMs") (env.get? "DOWNSTREAM_TIMEOUT_MS") 5000 =
        .fine c.downstreamTimeoutMs ∧
      env.serviceUrls = .fine c.serviceUrls ∧ env.gatewayRoutes = .fine c.gatewayRoutes ∧
      env.authConfig = .fine c.auth := by
  obtain ⟨_, _, fine₉, auth, rfl⟩ := fine_of_seq fine
  obtain ⟨_, _, fine₈, routes, rfl⟩ := fine_of_seq fine₉
  obtain ⟨_, _, fine₇, urls, rfl⟩ := fine_of_seq fine₈
  obtain ⟨_, _, fine₆, downstream, rfl⟩ := fine_of_seq fine₇
  obtain ⟨_, _, fine₅, -, rfl⟩ := fine_of_seq fine₆
  obtain ⟨_, _, fine₄, -, rfl⟩ := fine_of_seq fine₅
  obtain ⟨_, _, fine₃, port, rfl⟩ := fine_of_seq fine₄
  obtain ⟨_, _, fine₂, host, rfl⟩ := fine_of_seq fine₃
  obtain ⟨_, _, -, name, rfl⟩ := fine_of_map_seq fine₂
  exact ⟨name, host, port, downstream, urls, routes, auth⟩

/-- **Settings that are accepted are safe to run with.** -/
theorem Config.safe_of_ofEnv {env : Env} {c : Config} (fine : ofEnv env = .fine c) : c.Safe env := by
  obtain ⟨-, -, port, downstream, urls, -, auth⟩ := fine_of_ofEnv fine
  obtain ⟨issuer, audience, jwksUri, -, algorithms, tolerance, ttl, cooldown, fetchTimeout⟩ :=
    Env.fine_of_authConfig auth
  have issuer := Env.trimmed_of_required issuer
  have audience := Env.trimmed_of_required audience
  have jwksUri := Env.parses_of_jwksUri jwksUri
  have urls := Env.parses_of_serviceUrls urls
  have algorithms := Env.map_name_of_algorithms algorithms
  refine
    { issuer, audience, algorithms, jwksUri
      serviceUrls := urls
      tolerance := Env.toNat?_of_nonnegativeWhole (by decide) tolerance
      ttl := Env.toNat?_of_nonnegativeWhole (by decide) ttl
      cooldown := Env.toNat?_of_nonnegativeWhole (by decide) cooldown
      port := Env.toNat?_of_positiveWhole (by decide) port
      fetchTimeout := Env.toNat?_of_positiveWhole (by decide) fetchTimeout
      downstreamTimeout := Env.toNat?_of_positiveWhole (by decide) downstream
      supported := ?_, some_algorithm := ?_, distinct := ?_, gatewayRoutes := ?_, builds := ?_ }
  · intro name named
    rw [← algorithms] at named
    obtain ⟨a, -, rfl⟩ := List.mem_map.1 named
    exact List.mem_map_of_mem (SigningAlgorithm.mem_all a)
  · intro none_there
    rw [none_there] at algorithms
    exact Env.algorithmNames_ne_nil env algorithms.symm
  · refine List.Nodup.of_map SigningAlgorithm.name ?_
    rw [algorithms]
    exact Env.nodup_algorithmNames env
  · intro e _
    cases e.2 <;> decide
  · intro check
    obtain ⟨issuer_text, -, issuer_eq, issuer_filled⟩ := issuer
    obtain ⟨audience_text, -, audience_eq, audience_filled⟩ := audience
    obtain ⟨registry, resolves⟩ := Registry.exists_ofTable? urls
    obtain ⟨v, validates⟩ := Validator.exists_make (by rw [issuer_eq, Text.trim_trim]) issuer_filled
      (by rw [audience_eq, Text.trim_trim]) audience_filled c.auth.algorithms c.auth.clockToleranceSec
    obtain ⟨url, parsed⟩ := jwksUri
    exact ⟨⟨registry, resolves⟩, ⟨v, validates⟩, fun name => Instance.exists_ofConfig resolves validates parsed name check⟩

/-- **Configuration fails fast.**  An environment has something wrong with it, or it makes settings that are safe
to run with. -/
theorem Config.faulty_or_safe (env : Env) :
    (∃ first others, ofEnv env = .faulty first others) ∨ ∃ c, ofEnv env = .fine c ∧ c.Safe env := by
  cases made : ofEnv env with
  | faulty first others => exact .inl ⟨first, others, rfl⟩
  | fine c => exact .inr ⟨c, rfl, safe_of_ofEnv made⟩

/-- Three variables are enough. -/
example : ((Config.ofEnv [("SERVICE_NAME", "gateway"), ("AUTH_ISSUER", " https://idp.test/ "),
    ("AUTH_AUDIENCE", "shop")]).value?.map fun c => (c.auth.issuer, c.auth.jwksUri)) =
      some ("https://idp.test/", "https://idp.test/protocol/openid-connect/certs") := by
  decide +kernel

end BearerGate
