import BearerGate.Config.Env
import BearerGate.Crypto.Algorithm
import BearerGate.Schema.Value
import BearerGate.Url.Basic

/-!
# The settings of a service

`Config.ofEnv` makes the settings of a service from the variables of its environment.  Every setting is
read by a function of its own, named for it, that looks at its own variable alone (the address of the
keys also at the issuer's, if it is not given); the issues of all settings are reported together, in
the order of the settings.

The issuer and the audience have no default: without them a token of anyone for anyone would do.
-/

namespace BearerGate

/-- The services there are. -/
inductive ServiceName where
  | gateway
  | userService
  | productService
  | orderService
  deriving DecidableEq, Repr

namespace ServiceName

def all : List ServiceName := [gateway, userService, productService, orderService]

def name : ServiceName → String
  | gateway => "gateway"
  | userService => "user-service"
  | productService => "product-service"
  | orderService => "order-service"

def ofName? (s : String) : Option ServiceName := all.find? (·.name = s)

end ServiceName

/-- **How tokens are checked.** -/
structure AuthConfig where
  issuer : String
  audience : String
  jwksUri : String
  rolesClaimPath : String
  algorithms : List SigningAlgorithm
  clockToleranceSec : Number
  jwksCacheTtlMs : Number
  jwksRefreshCooldownMs : Number
  jwksFetchTimeoutMs : Number
  deriving DecidableEq, Repr

/-- **The settings of a service.** -/
structure Config where
  environment : String
  serviceName : ServiceName
  host : String
  port : Number
  logLevel : String
  corsAllowedOrigins : List String
  downstreamTimeoutMs : Number
  serviceUrls : Table String
  gatewayRoutes : Table ServiceName
  auth : AuthConfig
  deriving DecidableEq, Repr

namespace Env

/-! ### Reading single settings -/

/-- A setting with a default. -/
def withDefault {α : Type} (raw : Option String) (default : α) (check : String → Checked α) :
    Checked α :=
  match raw with
  | none => .fine default
  | some s => check s

/-- A setting that must be there, with the wording of the issue if it is not. -/
def required {α : Type} (path : List PathStep) (wording : String) (raw : Option String)
    (check : String → Checked α) : Checked α :=
  match raw with
  | none => .faulty ⟨path, .wrongKind "string" none, some wording⟩ []
  | some s => check s

/-- A setting that is trimmed and must not be blank, with the wording of the issue if it is. -/
def notBlank (path : List PathStep) (wording : String) (s : String) : Checked String :=
  let trimmed := Text.trim s
  if trimmed = "" then .faulty ⟨path, .textTooShort 1, some wording⟩ [] else .fine trimmed

/-- A whole number of at least one. -/
def positiveWhole (path : List PathStep) (raw : Option String) (default : Nat) : Checked Number :=
  withDefault raw (.ofNat default) (Checked.writtenNumber path [.whole, .positive])

/-- A whole number of at least zero. -/
def nonnegativeWhole (path : List PathStep) (raw : Option String) (default : Nat) : Checked Number :=
  withDefault raw (.ofNat default) (Checked.writtenNumber path [.whole, .nonnegative])

/-- A text that is an address on its own; it is kept as it stands. -/
def address (path : List PathStep) (s : String) : Checked String :=
  if (Url.parse? s none).isSome then .fine s else .faulty ⟨path, .noUrl, none⟩ []

/-- The path of a setting at the top. -/
def topLevel (name : String) : List PathStep := [.name name]

/-- The path of a setting about tokens. -/
def inAuth (name : String) : List PathStep := [.name "auth", .name name]

/-! ### The settings -/

def serviceNameWording : String :=
  "SERVICE_NAME is required (" ++ String.intercalate ", " (ServiceName.all.map ServiceName.name) ++ ")"

def serviceName (env : Env) : Checked ServiceName :=
  required (topLevel "serviceName") serviceNameWording (env.get? "SERVICE_NAME")
    (Checked.listed (topLevel "serviceName") (ServiceName.all.map ServiceName.name) ServiceName.ofName?)

def host (env : Env) : Checked String :=
  withDefault (env.get? "HOST") "0.0.0.0" (Checked.sized (topLevel "host") 1 none)

/-- The addresses of services, each an address on its own. -/
def serviceUrls (env : Env) : Checked (Table String) :=
  Checked.forAll
    (fun e => (e.1, ·) <$> address [.name "serviceUrls", .name e.1] e.2)
    (envMap (env.get? "SERVICE_URLS"))

def defaultGatewayRoutes : String := "users=user-service,products=product-service,orders=order-service"

/-- The services that the first segments of gateway paths lead to. -/
def gatewayRoutes (env : Env) : Checked (Table ServiceName) :=
  Checked.forAll
    (fun e => (e.1, ·) <$>
      Checked.listed [.name "gatewayRoutes", .name e.1] (ServiceName.all.map ServiceName.name)
        ServiceName.ofName? e.2)
    (envMap ((env.get? "GATEWAY_ROUTES").or (some defaultGatewayRoutes)))

def issuer (env : Env) : Checked String :=
  required (inAuth "issuer") "AUTH_ISSUER is required" (env.get? "AUTH_ISSUER")
    (notBlank (inAuth "issuer") "AUTH_ISSUER must not be empty")

def audience (env : Env) : Checked String :=
  required (inAuth "audience") "AUTH_AUDIENCE is required" (env.get? "AUTH_AUDIENCE")
    (notBlank (inAuth "audience") "AUTH_AUDIENCE must not be empty")

/-- The address at which an issuer publishes its keys if no other is given: one slash at the end of the
issuer's name does not count. -/
def issuerKeysAddress (issuer : String) : String :=
  let cs := issuer.toList
  let base := if cs.getLast? = some '/' then cs.dropLast else cs
  String.ofList base ++ "/protocol/openid-connect/certs"

/-- The address of the keys: the one that is given, or else the one that follows from the issuer. -/
def jwksUriText? (env : Env) : Option String :=
  (env.get? "AUTH_JWKS_URI").or
    ((env.get? "AUTH_ISSUER").bind fun issuer =>
      let trimmed := Text.trim issuer
      if trimmed = "" then none else some (issuerKeysAddress trimmed))

def jwksUri (env : Env) : Checked String :=
  required (inAuth "jwksUri") "AUTH_JWKS_URI is required when AUTH_ISSUER is not set" (jwksUriText? env)
    (address (inAuth "jwksUri"))

def rolesClaimPath (env : Env) : Checked String :=
  notBlank (inAuth "rolesClaimPath") "AUTH_ROLES_CLAIM_PATH must not be empty"
    ((env.get? "AUTH_ROLES_CLAIM_PATH").getD "realm_access.roles")

/-- The algorithms that tokens may be signed with; one of them if none is named. -/
def algorithms (env : Env) : Checked (List SigningAlgorithm) :=
  let listed := envList (env.get? "AUTH_ALGORITHMS")
  Checked.forAll
    (fun e : String × Nat =>
      Checked.listed [.name "auth", .name "algorithms", .index e.2]
        (SigningAlgorithm.all.map SigningAlgorithm.name) SigningAlgorithm.ofName? e.1)
    (if listed = [] then ["RS256"] else listed).zipIdx

/-- The settings about tokens. -/
def authConfig (env : Env) : Checked AuthConfig :=
  AuthConfig.mk <$> issuer env <*> audience env <*> jwksUri env <*> rolesClaimPath env <*>
    algorithms env <*>
    nonnegativeWhole (inAuth "clockToleranceSec") (env.get? "AUTH_CLOCK_TOLERANCE_SEC") 0 <*>
    nonnegativeWhole (inAuth "jwksCacheTtlMs") (env.get? "AUTH_JWKS_CACHE_TTL_MS") 600000 <*>
    nonnegativeWhole (inAuth "jwksRefreshCooldownMs") (env.get? "AUTH_JWKS_REFRESH_COOLDOWN_MS") 10000 <*>
    positiveWhole (inAuth "jwksFetchTimeoutMs") (env.get? "AUTH_JWKS_FETCH_TIMEOUT_MS") 5000

end Env

namespace Config

/-- **The settings that an environment makes,** or everything that is wrong with it. -/
def ofEnv (env : Env) : Checked Config :=
  Config.mk <$> .fine ((env.get? "NODE_ENV").getD "development") <*> env.serviceName <*> env.host <*>
    Env.positiveWhole (Env.topLevel "port") (env.get? "PORT") 8080 <*>
    .fine ((env.get? "LOG_LEVEL").getD "info") <*>
    .fine (envList (env.get? "CORS_ALLOWED_ORIGINS")) <*>
    Env.positiveWhole (Env.topLevel "downstreamTimeoutMs") (env.get? "DOWNSTREAM_TIMEOUT_MS") 5000 <*>
    env.serviceUrls <*> env.gatewayRoutes <*> env.authConfig

/-- The code of an error about settings. -/
def errorCode : String := "config.invalid"

/-- The message of an error about settings, with a line for each issue. -/
def errorMessage (lines : List String) : String :=
  "Invalid configuration:\n  - " ++ String.intercalate "\n  - " lines

def toJson (c : Config) : Json :=
  .object [("nodeEnv", .string c.environment), ("serviceName", .string c.serviceName.name),
    ("host", .string c.host), ("port", .number c.port), ("logLevel", .string c.logLevel),
    ("corsAllowedOrigins", .strings c.corsAllowedOrigins),
    ("downstreamTimeoutMs", .number c.downstreamTimeoutMs),
    ("serviceUrls", .object (c.serviceUrls.map fun e => (e.1, .string e.2))),
    ("gatewayRoutes", .object (c.gatewayRoutes.map fun e => (e.1, .string e.2.name))),
    ("auth", .object [("issuer", .string c.auth.issuer), ("audience", .string c.auth.audience),
      ("jwksUri", .string c.auth.jwksUri), ("rolesClaimPath", .string c.auth.rolesClaimPath),
      ("algorithms", .strings (c.auth.algorithms.map SigningAlgorithm.name)),
      ("clockToleranceSec", .number c.auth.clockToleranceSec),
      ("jwksCacheTtlMs", .number c.auth.jwksCacheTtlMs),
      ("jwksRefreshCooldownMs", .number c.auth.jwksRefreshCooldownMs),
      ("jwksFetchTimeoutMs", .number c.auth.jwksFetchTimeoutMs)])]

end Config

end BearerGate
