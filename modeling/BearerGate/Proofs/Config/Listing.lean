import BearerGate.Proofs.Config.Safety

/-!
# An error about settings lists every problem

Someone who starts a service with a bad environment should learn of everything that is wrong with it at once, and
should be able to mend one variable without bringing up a problem that was there all along.  Both follow from the same
fact: the checks are put side by side, never one after the other, so what is wrong with one setting is found without a
look at any other.

`Setting` names the settings in their order, and `Setting.issues` is what is wrong with one of them taken alone.
`Setting.DependsOn` says whose variable a setting is read from.  That is its own, with one exception: where no address
of the keys is given, it is made from the issuer.
-/

namespace BearerGate

/-- **The settings of a service.** -/
inductive Setting where
  | environment
  | serviceName
  | host
  | port
  | logLevel
  | corsAllowedOrigins
  | downstreamTimeoutMs
  | serviceUrls
  | gatewayRoutes
  | issuer
  | audience
  | jwksUri
  | rolesClaimPath
  | algorithms
  | clockToleranceSec
  | jwksCacheTtlMs
  | jwksRefreshCooldownMs
  | jwksFetchTimeoutMs
  deriving DecidableEq, Repr

namespace Setting

/-- All settings, in their order. -/
def all : List Setting :=
  [environment, serviceName, host, port, logLevel, corsAllowedOrigins, downstreamTimeoutMs, serviceUrls,
    gatewayRoutes, issuer, audience, jwksUri, rolesClaimPath, algorithms, clockToleranceSec, jwksCacheTtlMs,
    jwksRefreshCooldownMs, jwksFetchTimeoutMs]

theorem mem_all (s : Setting) : s ∈ all := by
  cases s <;> decide

theorem nodup_all : all.Nodup := by
  decide

/-- The variable of a setting. -/
def variableName : Setting → String
  | environment => "NODE_ENV"
  | serviceName => "SERVICE_NAME"
  | host => "HOST"
  | port => "PORT"
  | logLevel => "LOG_LEVEL"
  | corsAllowedOrigins => "CORS_ALLOWED_ORIGINS"
  | downstreamTimeoutMs => "DOWNSTREAM_TIMEOUT_MS"
  | serviceUrls => "SERVICE_URLS"
  | gatewayRoutes => "GATEWAY_ROUTES"
  | issuer => "AUTH_ISSUER"
  | audience => "AUTH_AUDIENCE"
  | jwksUri => "AUTH_JWKS_URI"
  | rolesClaimPath => "AUTH_ROLES_CLAIM_PATH"
  | algorithms => "AUTH_ALGORITHMS"
  | clockToleranceSec => "AUTH_CLOCK_TOLERANCE_SEC"
  | jwksCacheTtlMs => "AUTH_JWKS_CACHE_TTL_MS"
  | jwksRefreshCooldownMs => "AUTH_JWKS_REFRESH_COOLDOWN_MS"
  | jwksFetchTimeoutMs => "AUTH_JWKS_FETCH_TIMEOUT_MS"

theorem variableName_injective {s t : Setting} (same : s.variableName = t.variableName) : s = t := by
  revert same
  cases s <;> cases t <;> decide

/-- Whether a setting stands among those about tokens. -/
def isInAuth : Setting → Bool
  | issuer | audience | jwksUri | rolesClaimPath | algorithms | clockToleranceSec | jwksCacheTtlMs
  | jwksRefreshCooldownMs | jwksFetchTimeoutMs => true
  | _ => false

/-- The name under which a setting is reported. -/
def fieldName : Setting → String
  | environment => "nodeEnv"
  | serviceName => "serviceName"
  | host => "host"
  | port => "port"
  | logLevel => "logLevel"
  | corsAllowedOrigins => "corsAllowedOrigins"
  | downstreamTimeoutMs => "downstreamTimeoutMs"
  | serviceUrls => "serviceUrls"
  | gatewayRoutes => "gatewayRoutes"
  | issuer => "issuer"
  | audience => "audience"
  | jwksUri => "jwksUri"
  | rolesClaimPath => "rolesClaimPath"
  | algorithms => "algorithms"
  | clockToleranceSec => "clockToleranceSec"
  | jwksCacheTtlMs => "jwksCacheTtlMs"
  | jwksRefreshCooldownMs => "jwksRefreshCooldownMs"
  | jwksFetchTimeoutMs => "jwksFetchTimeoutMs"

/-- Where the issues of a setting lie. -/
def path (s : Setting) : List PathStep :=
  if s.isInAuth then Env.inAuth s.fieldName else Env.topLevel s.fieldName

/-- **What is wrong with a setting,** taken alone.  Some settings may be anything. -/
def issues (env : Env) : Setting → List Issue
  | environment | logLevel | corsAllowedOrigins => []
  | serviceName => env.serviceName.issues
  | host => env.host.issues
  | port => (Env.positiveWhole (Env.topLevel "port") (env.get? "PORT") 8080).issues
  | downstreamTimeoutMs =>
    (Env.positiveWhole (Env.topLevel "downstreamTimeoutMs") (env.get? "DOWNSTREAM_TIMEOUT_MS") 5000).issues
  | serviceUrls => env.serviceUrls.issues
  | gatewayRoutes => env.gatewayRoutes.issues
  | issuer => env.issuer.issues
  | audience => env.audience.issues
  | jwksUri => env.jwksUri.issues
  | rolesClaimPath => env.rolesClaimPath.issues
  | algorithms => env.algorithms.issues
  | clockToleranceSec =>
    (Env.nonnegativeWhole (Env.inAuth "clockToleranceSec") (env.get? "AUTH_CLOCK_TOLERANCE_SEC") 0).issues
  | jwksCacheTtlMs =>
    (Env.nonnegativeWhole (Env.inAuth "jwksCacheTtlMs") (env.get? "AUTH_JWKS_CACHE_TTL_MS") 600000).issues
  | jwksRefreshCooldownMs =>
    (Env.nonnegativeWhole (Env.inAuth "jwksRefreshCooldownMs") (env.get? "AUTH_JWKS_REFRESH_COOLDOWN_MS")
      10000).issues
  | jwksFetchTimeoutMs =>
    (Env.positiveWhole (Env.inAuth "jwksFetchTimeoutMs") (env.get? "AUTH_JWKS_FETCH_TIMEOUT_MS") 5000).issues

/-- A setting depends on the variable of another one only if that is its own; the address of the keys depends on the
issuer's if it is not given. -/
def DependsOn (env : Env) (s other : Setting) : Prop :=
  s = other ∨ (s = jwksUri ∧ other = issuer ∧ env.get? "AUTH_JWKS_URI" = none)

instance (env : Env) (s other : Setting) : Decidable (DependsOn env s other) :=
  inferInstanceAs (Decidable (_ ∨ _))

theorem dependsOn_self (env : Env) (s : Setting) : DependsOn env s s := .inl rfl

/-- What a setting does not depend on has no effect on it. -/
theorem issues_congr {env env' : Env} {s : Setting}
    (same : ∀ other, DependsOn env s other → env'.get? other.variableName = env.get? other.variableName) :
    s.issues env' = s.issues env := by
  have own := same s (dependsOn_self env s)
  cases s
  case jwksUri =>
    -- only the text of this setting comes from two variables
    have text : env'.jwksUriText? = env.jwksUriText? := by
      change env'.get? "AUTH_JWKS_URI" = env.get? "AUTH_JWKS_URI" at own
      rw [Env.jwksUriText?, Env.jwksUriText?, own]
      cases given : env.get? "AUTH_JWKS_URI" with
      | some uri => rfl
      | none =>
        have issuer_same : env'.get? "AUTH_ISSUER" = env.get? "AUTH_ISSUER" := same issuer (.inr ⟨rfl, rfl, given⟩)
        rw [issuer_same]
    rw [issues, issues, Env.jwksUri, Env.jwksUri, text]
  all_goals
    simp only [variableName] at own
    simp only [issues, Env.serviceName, Env.host, Env.serviceUrls, Env.gatewayRoutes, Env.issuer, Env.audience,
      Env.rolesClaimPath, Env.algorithms, own]

end Setting

/-! ### Where issues lie -/

namespace Checked

variable {α β : Type} {path : List PathStep}

/-- All issues lie at a place or below it. -/
def Below (path : List PathStep) (x : Checked α) : Prop := ∀ i ∈ x.issues, path <+: i.path

@[simp]
theorem below_fine (a : α) : (fine a).Below path := by
  intro i member
  cases member

@[simp]
theorem below_faulty_single {i : Issue} : (faulty i [] : Checked α).Below path ↔ path <+: i.path := by
  simp [Below, issues]

theorem below_map {f : α → β} {x : Checked α} (below : x.Below path) : (f <$> x).Below path := by
  intro i member
  rw [issues_map] at member
  exact below i member

theorem below_bounded (bounds : List NumberBound) (n : Number) : (bounded path bounds n).Below path := by
  rw [bounded]
  split
  · exact below_faulty_single.2 (List.prefix_refl path)
  · intro i member
    have issues_ofIssues : ∀ is : List Issue, (ofIssues n is).issues = is := fun is => by cases is <;> rfl
    rw [issues_ofIssues] at member
    obtain ⟨kind, -, rfl⟩ := List.mem_map.1 member
    exact List.prefix_refl path

theorem below_listed {at' : List PathStep} (below : path <+: at') (names : List String) (ofName? : String → Option α)
    (s : String) : (listed at' names ofName? s).Below path := by
  rw [listed]
  split
  · exact below_fine _
  · exact below_faulty_single.2 below

theorem below_forAll {f : α → Checked β} {as : List α} (below : ∀ a ∈ as, (f a).Below path) :
    (forAll f as).Below path := by
  induction as with
  | nil => exact below_fine _
  | cons a as ih =>
    intro i member
    rw [forAll, issues_seq, List.mem_append] at member
    rcases member with first | later
    · exact below_map (below a List.mem_cons_self) i first
    · exact ih (fun b there => below b (List.mem_cons_of_mem a there)) i later

end Checked

namespace Env

variable {α : Type} {path : List PathStep} {raw : Option String}

theorem below_withDefault {default : α} {check : String → Checked α} (below : ∀ s, (check s).Below path) :
    (withDefault raw default check).Below path := by
  cases raw with
  | none => exact Checked.below_fine default
  | some s => exact below s

theorem below_required {wording : String} {check : String → Checked α} (below : ∀ s, (check s).Below path) :
    (required path wording raw check).Below path := by
  cases raw with
  | none => exact Checked.below_faulty_single.2 (List.prefix_refl path)
  | some s => exact below s

theorem below_notBlank (wording s : String) : (notBlank path wording s).Below path := by
  rw [notBlank]
  split
  · exact Checked.below_faulty_single.2 (List.prefix_refl path)
  · exact Checked.below_fine _

theorem below_address {at' : List PathStep} (below : path <+: at') (s : String) : (address at' s).Below path := by
  rw [address]
  split
  · exact Checked.below_fine s
  · exact Checked.below_faulty_single.2 below

theorem below_positiveWhole (default : Nat) : (positiveWhole path raw default).Below path :=
  below_withDefault fun s => Checked.below_bounded _ (.ofText s)

theorem below_nonnegativeWhole (default : Nat) : (nonnegativeWhole path raw default).Below path :=
  below_withDefault fun s => Checked.below_bounded _ (.ofText s)

theorem topLevel_prefix_cons (name : String) (step : PathStep) : topLevel name <+: [.name name, step] :=
  List.prefix_append [_] [_]

theorem inAuth_prefix_cons (name : String) (step : PathStep) : inAuth name <+: [.name "auth", .name name, step] :=
  List.prefix_append [_, _] [_]

theorem below_serviceUrls (env : Env) : env.serviceUrls.Below (topLevel "serviceUrls") := by
  rw [serviceUrls]
  refine Checked.below_forAll fun e _ => Checked.below_map ?_
  exact below_address (topLevel_prefix_cons _ _) e.2

theorem below_gatewayRoutes (env : Env) : env.gatewayRoutes.Below (topLevel "gatewayRoutes") := by
  rw [gatewayRoutes]
  refine Checked.below_forAll fun e _ => Checked.below_map ?_
  exact Checked.below_listed (topLevel_prefix_cons _ _) _ _ e.2

theorem below_algorithms (env : Env) : env.algorithms.Below (inAuth "algorithms") := by
  rw [algorithms]
  refine Checked.below_forAll fun e _ => ?_
  exact Checked.below_listed (inAuth_prefix_cons _ _) _ _ e.1

end Env

namespace Setting

/-- **Every issue names its setting.** -/
theorem path_of_issue {env : Env} {s : Setting} : ∀ i ∈ s.issues env, s.path <+: i.path := by
  cases s with
  | environment => exact Checked.below_fine ()
  | logLevel => exact Checked.below_fine ()
  | corsAllowedOrigins => exact Checked.below_fine ()
  | serviceName => exact Env.below_required fun _ => Checked.below_listed (List.prefix_refl _) _ _ _
  | host =>
    refine Env.below_withDefault fun s => ?_
    rw [Checked.sized]
    split
    · exact Checked.below_faulty_single.2 (List.prefix_refl _)
    · exact Checked.below_fine s
  | port => exact Env.below_positiveWhole _
  | downstreamTimeoutMs => exact Env.below_positiveWhole _
  | serviceUrls => exact env.below_serviceUrls
  | gatewayRoutes => exact env.below_gatewayRoutes
  | issuer => exact Env.below_required (Env.below_notBlank _)
  | audience => exact Env.below_required (Env.below_notBlank _)
  | jwksUri => exact Env.below_required (Env.below_address (List.prefix_refl _))
  | rolesClaimPath =>
    show env.rolesClaimPath.Below (Env.inAuth "rolesClaimPath")
    rw [Env.rolesClaimPath]
    exact Env.below_notBlank _ _
  | algorithms => exact env.below_algorithms
  | clockToleranceSec => exact Env.below_nonnegativeWhole _
  | jwksCacheTtlMs => exact Env.below_nonnegativeWhole _
  | jwksRefreshCooldownMs => exact Env.below_nonnegativeWhole _
  | jwksFetchTimeoutMs => exact Env.below_positiveWhole _

/-- No setting lies below another one. -/
theorem eq_of_path_prefix_path {s t : Setting} (below : s.path <+: t.path) : s = t := by
  revert below
  cases s <;> cases t <;> decide

/-- What the error says at the place of a setting is what is wrong with that setting. -/
theorem filter_issues (env : Env) (s t : Setting) :
    (t.issues env).filter (s.path <+: ·.path) = if t = s then s.issues env else [] := by
  split
  · rename_i same
    subst same
    exact List.filter_eq_self.2 fun i member => decide_eq_true (path_of_issue i member)
  · rename_i other
    refine List.filter_eq_nil_iff.2 fun i member there => other ?_
    rcases List.prefix_or_prefix_of_prefix (path_of_issue i member) (of_decide_eq_true there) with below | above
    · exact eq_of_path_prefix_path below
    · exact (eq_of_path_prefix_path above).symm

end Setting

/-! ### The whole error -/

/-- A list in which one member alone contributes. -/
theorem flatMap_single {α β : Type} [DecidableEq α] {as : List α} {a : α} (distinct : as.Nodup) (member : a ∈ as)
    (bs : List β) : (as.flatMap fun b => if b = a then bs else []) = bs := by
  induction as with
  | nil => cases member
  | cons b as ih =>
    obtain ⟨new, distinct⟩ := List.nodup_cons.1 distinct
    rw [List.flatMap_cons]
    split
    · rename_i same
      subst same
      have nothing : (as.flatMap fun c => if c = b then bs else []) = [] :=
        List.flatMap_eq_nil_iff.2 fun c there => if_neg fun (again : c = b) => new (again ▸ there)
      rw [nothing, List.append_nil]
    · rename_i other
      rw [List.nil_append]
      exact ih distinct ((List.mem_cons.1 member).resolve_left fun same => other same.symm)

/-- **The issues of an environment are those of its settings,** in order. -/
theorem Config.issues_ofEnv (env : Env) : (ofEnv env).issues = Setting.all.flatMap (Setting.issues env) := by
  rw [ofEnv, Env.authConfig]
  simp only [Checked.issues_seq, Checked.issues_map, Checked.issues_fine, List.append_assoc, List.nil_append]
  simp only [Setting.all, Setting.issues, List.flatMap_cons, List.flatMap_nil, List.nil_append, List.append_nil]

/-- **What it is to list every problem** of an environment. -/
structure Env.Listed (env : Env) : Prop where
  /-- The lines of the error are those of the settings taken alone, in order. -/
  lines : (Config.ofEnv env).issues.map Issue.line = Setting.all.flatMap fun s => (s.issues env).map Issue.line
  /-- What is wrong with a setting depends on nothing but its own variable, and for the address of the keys on the
  issuer's if there is none. -/
  alone : ∀ (s : Setting) (env' : Env),
    (∀ other, s.DependsOn env other → env'.get? other.variableName = env.get? other.variableName) →
    s.issues env' = s.issues env
  /-- Each setting's part of the error can be told from the others. -/
  apart : ∀ s : Setting, (Config.ofEnv env).issues.filter (s.path <+: ·.path) = s.issues env
  /-- There are settings if and only if nothing is wrong with any. -/
  accepted : (∃ c, Config.ofEnv env = .fine c) ↔ ∀ s : Setting, s.issues env = []
  /-- Whatever becomes of one variable, the parts of all settings that do not depend on it stay as they are and where
  they are. -/
  changed : ∀ (s : Setting) (env' : Env), (∀ name ≠ s.variableName, env'.get? name = env.get? name) →
    (Config.ofEnv env').issues =
      Setting.all.flatMap fun t => if t.DependsOn env s then t.issues env' else t.issues env
  /-- If it is put right, those parts are all that is left. -/
  repaired : ∀ (s : Setting) (env' : Env), (∀ name ≠ s.variableName, env'.get? name = env.get? name) →
    (∀ t : Setting, t.DependsOn env s → t.issues env' = []) →
    (Config.ofEnv env').issues = (Setting.all.filter fun t => ¬ t.DependsOn env s).flatMap (Setting.issues env)
  /-- Putting the issuer right also puts right the address of the keys that is made from it, provided that it is one. -/
  derived : env.get? "AUTH_JWKS_URI" = none → ∀ (env' : Env) issuer,
    (∀ name ≠ "AUTH_ISSUER", env'.get? name = env.get? name) → env'.issuer = .fine issuer →
    (Setting.jwksUri.issues env' = [] ↔ ∃ url, Url.parse? (Env.issuerKeysAddress issuer) none = some url)

namespace Setting

/-- A change of one variable is without effect on what does not depend on it. -/
theorem issues_of_changed {env env' : Env} {s t : Setting}
    (elsewhere : ∀ name ≠ s.variableName, env'.get? name = env.get? name) (independent : ¬ t.DependsOn env s) :
    t.issues env' = t.issues env := by
  refine issues_congr fun other depends => elsewhere _ fun same => independent ?_
  rwa [← variableName_injective same]

/-- Whether an address of the keys can be made from the issuer. -/
theorem jwksUri_issues_of_issuer {env : Env} {name : String} (underived : env.get? "AUTH_JWKS_URI" = none)
    (fine : env.issuer = .fine name) :
    jwksUri.issues env = [] ↔ ∃ url, Url.parse? (Env.issuerKeysAddress name) none = some url := by
  obtain ⟨text, given, rfl, filled⟩ := Env.trimmed_of_required fine
  have made : env.jwksUriText? = some (Env.issuerKeysAddress (Text.trim text)) := by
    simp only [Env.jwksUriText?, underived, given, Option.none_or, Option.bind_some, if_neg filled]
  rw [← Option.isSome_iff_exists]
  simp only [issues, Env.jwksUri, made, Env.required, Env.address]
  split
  · rename_i parses
    exact ⟨fun _ => parses, fun _ => Checked.issues_fine _⟩
  · rename_i unreadable
    exact ⟨fun none_there => absurd none_there (List.cons_ne_nil _ _), fun parses => absurd parses unreadable⟩

end Setting

/-- **Every problem of an environment is listed.** -/
theorem Config.lists_every_problem (env : Env) : env.Listed where
  lines := by
    rw [issues_ofEnv, List.map_flatMap]
  alone := fun s env' same => Setting.issues_congr same
  apart := by
    intro s
    rw [issues_ofEnv, List.filter_flatMap]
    simp only [Setting.filter_issues]
    exact flatMap_single Setting.nodup_all s.mem_all _
  accepted := by
    rw [← Checked.issues_eq_nil_iff, issues_ofEnv, List.flatMap_eq_nil_iff]
    exact ⟨fun none_there s => none_there s s.mem_all, fun none_there s _ => none_there s⟩
  changed := by
    intro s env' elsewhere
    rw [issues_ofEnv]
    refine List.flatMap_congr fun t _ => ?_
    split
    · rfl
    · exact Setting.issues_of_changed elsewhere ‹_›
  repaired := by
    intro s env' elsewhere mended
    rw [issues_ofEnv]
    -- the parts that go away are empty, and the rest is as it was
    induction Setting.all with
    | nil => rfl
    | cons t ts ih =>
      rw [List.flatMap_cons, List.filter_cons, ih]
      by_cases depends : t.DependsOn env s
      · rw [mended t depends]
        simp [depends]
      · rw [Setting.issues_of_changed elsewhere depends]
        simp [depends]
  derived := by
    intro underived env' issuer elsewhere fine
    have underived' : env'.get? "AUTH_JWKS_URI" = none := (elsewhere _ (by decide)).trans underived
    exact Setting.jwksUri_issues_of_issuer underived' fine

end BearerGate
