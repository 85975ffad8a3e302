import BearerGate.Http.Target
import BearerGate.Service.Routes.Gateway
import BearerGate.Service.Routes.Health
import BearerGate.Service.Routes.Orders
import BearerGate.Service.Routes.Probe
import BearerGate.Service.Routes.Products
import BearerGate.Service.Routes.Users

/-!
# Routes

An endpoint is a route of a service: methods, a pattern for the path, what it asks of the caller, and its
handler.  `ServiceName.endpoints` lists the endpoints of each service; every service has the three public
ones.  Fixed parts of a path win over parameters, so endpoints with fixed paths come first.
-/

namespace BearerGate

/-- **What an endpoint asks of its caller.** -/
inductive Access where
  /-- Nothing; the token is not even looked at. -/
  | open
  | needs (requirement : Requirement)
  deriving DecidableEq, Repr

/-- **The endpoints there are.** -/
inductive Endpoint where
  | health | ready | metrics
  | relay
  | me | adminOnly | jwtInfo | user | createUser
  | listProducts | getProduct | createProduct | updateProduct | deleteProduct
  | listOrders | getOrder | createOrder
  | probe (p : Probe)
  deriving DecidableEq, Repr

namespace Endpoint

def methods : Endpoint → List String
  | relay => ["GET", "POST", "PUT", "PATCH", "DELETE"]
  | createUser | createProduct | createOrder => ["POST"]
  | updateProduct => ["PUT"]
  | deleteProduct => ["DELETE"]
  | _ => ["GET"]

/-- Whether an endpoint answers a method; what answers `GET` answers `HEAD`. -/
def answers (e : Endpoint) (method : String) : Bool :=
  e.methods.contains method || (method = "HEAD" && e.methods.contains "GET")

def pattern : Endpoint → List PatternPart
  | health => [.literal "health"]
  | ready => [.literal "ready"]
  | metrics => [.literal "metrics"]
  | relay => [.literal "api", .rest]
  | me => [.literal "api", .literal "users", .literal "me"]
  | adminOnly => [.literal "api", .literal "users", .literal "admin-only"]
  | jwtInfo => [.literal "api", .literal "users", .literal "jwt-info"]
  | user => [.literal "api", .literal "users", .parameter "id"]
  | createUser => [.literal "api", .literal "users"]
  | listProducts | createProduct => [.literal "api", .literal "products"]
  | getProduct | updateProduct | deleteProduct =>
    [.literal "api", .literal "products", .parameter "id"]
  | listOrders | createOrder => [.literal "api", .literal "orders"]
  | getOrder => [.literal "api", .literal "orders", .parameter "id"]
  | probe p => [.literal "probe", .literal p.name]

def admin : Access := .needs (.anyOf ["admin"])

def access : Endpoint → Access
  | health | ready | metrics | probe .principal | probe .context | probe .error => .open
  | adminOnly | user | createUser | createProduct | updateProduct | deleteProduct => admin
  | probe .role => .needs (.anyOf ["auditor", "admin"])
  | _ => .needs .anyone

/-- The pattern under which requests of an endpoint are counted. -/
def label (e : Endpoint) : String := patternText e.pattern

def handler : Endpoint → Handler
  | health => healthHandler
  | ready => readyHandler
  | metrics => metricsHandler
  | relay => relayHandler
  | me => meHandler
  | adminOnly => adminOnlyHandler
  | jwtInfo => jwtInfoHandler
  | user => userHandler
  | createUser => createUserHandler
  | listProducts => listProductsHandler
  | getProduct => getProductHandler
  | createProduct => createProductHandler
  | updateProduct => updateProductHandler
  | deleteProduct => deleteProductHandler
  | listOrders => listOrdersHandler
  | getOrder => getOrderHandler
  | createOrder => createOrderHandler
  | probe p => fun _ i =>
    match p.answer i with
    | .ok a => pure a
    | .error f => Handling.fail f

def probes : List Endpoint := Probe.all.map probe

end Endpoint

/-- **The endpoints of a service.** -/
def ServiceName.endpoints : ServiceName → List Endpoint
  | gateway => [.health, .ready, .metrics, .relay]
  | userService => [.health, .ready, .metrics, .me, .adminOnly, .jwtInfo, .user, .createUser]
  | productService =>
    [.health, .ready, .metrics, .listProducts, .getProduct, .createProduct, .updateProduct,
      .deleteProduct]
  | orderService => [.health, .ready, .metrics, .listOrders, .getOrder, .createOrder]

/-- An endpoint with the parameters of a request. -/
structure Match where
  endpoint : Endpoint
  parameters : List (String × String)
  deriving DecidableEq, Repr

/-- **What a method and a target lead to.** -/
inductive Routing where
  /-- An escape in the target stands for no character. -/
  | badTarget
  /-- The same, and there is no endpoint for the method either. -/
  | nowhere
  | unmatched
  | matched (m : Match)
  deriving DecidableEq, Repr

/-- The first endpoint that answers a method and a path. -/
def findMatch (endpoints : List Endpoint) (method : String) (path : List (List SegmentChar)) :
    Option Match :=
  endpoints.findSome? fun e =>
    if e.answers method then (matchPattern e.pattern path).map (⟨e, ·⟩) else none

/-- **Routing** a request among endpoints. -/
def route (endpoints : List Endpoint) (method target : String) : Routing :=
  match Target.segments? target with
  | none => if endpoints.any (·.answers method) then .badTarget else .nowhere
  | some none => .unmatched
  | some (some path) =>
    match findMatch endpoints method path with
    | some m => .matched m
    | none => .unmatched

end BearerGate
