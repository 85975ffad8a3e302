import BearerGate.Deployment
import BearerGate.Proofs.Json.Equality
import BearerGate.Proofs.Number.Whole
import BearerGate.Proofs.Service.Ledger
import BearerGate.Proofs.Service.Propagation

/-!
# Orders are placed wholly or not at all

In a run of the order service from no orders, a request for an order has one of two ends (`Site.order_or_nothing`).
With status 201, one of its moves adds one order behind those that all moves before it have created, under the next
number, and its other moves change nothing.  With any other status none of its moves changes anything.  What stands
in the order comes from the answers to its own two calls, and both calls bear the token of the request.

Nothing is said about the order in which requests take their turns: other requests may have placed orders while this
one was waiting for its answers.
-/

namespace BearerGate

/-! ### Calls with a token -/

/-- **A call bears a token:** its one `Authorization` header carries that token. -/
def OutboundCall.Bears (call : OutboundCall) (t : String) : Prop :=
  call.headers.entries.filter (fun e => Text.lower e.1 = "authorization") = [("authorization", "Bearer " ++ t)]

/-- **A prepared call is sealed** with the token of its context. -/
theorem sealed_of_prepared {s : Service} {context : RequestContext} {r : ServiceRequest} {call : OutboundCall}
    {header t : String} (prepared : Prepared s context r call) (held : context.token = some t)
    (delivered : Delivered header) (found : bearerToken? (some header) = some t) :
    ∃ plain : OutboundCall, call = plain.sealed t ∧ plain.method = Unicode.toUpper r.method ∧
      plain.body = r.body.map Json.render ∧ plain.headers.Lowered ∧
      (r.body = none → callHeaders? context r.headers = some plain.headers) := by
  obtain ⟨log, prepared⟩ := prepared
  obtain ⟨token, -⟩ := bearerToken?_eq_some found
  have filled : t ≠ "" := by
    rintro rfl
    exact token.ne_nil rfl
  obtain ⟨base, plain, -, forwarded, -, method, body, lowered, dressed, -⟩ := exists_plain_of_prepareCall prepared
  rw [forward_of_token held filled (isValue_bearerHeader delivered found)] at forwarded
  cases forwarded
  exact ⟨plain, rfl, method, body, lowered, dressed⟩

/-- **A prepared call bears the token of its context.** -/
theorem bears_of_prepared {s : Service} {context : RequestContext} {r : ServiceRequest} {call : OutboundCall}
    {header t : String} (prepared : Prepared s context r call) (held : context.token = some t)
    (delivered : Delivered header) (found : bearerToken? (some header) = some t) : call.Bears t := by
  obtain ⟨plain, rfl, -, -, lowered, -⟩ := sealed_of_prepared prepared held delivered found
  exact (sentFor_sealed lowered t).authorization

/-- What can be sent back can be sent on. -/
theorem isSome_value?_of_isReplyHeader {name value : String} (fine : isReplyHeader (name, value) = true) :
    (Headers.value? value).isSome = true := by
  have chars : (Text.trimChars Headers.isEdgeBlank value.toList).all
      (fun c => c ≠ '\x00' && c ≠ '\n' && c ≠ '\r' && c.toNat ≤ 255) = true := by
    refine List.all_eq_true.2 fun c member => ?_
    have sendable : isReplyChar c = true := List.all_eq_true.1 fine c (Text.mem_of_mem_trimChars member)
    have low : c.toNat ≤ 255 := by
      simp only [isReplyChar, Bool.or_eq_true, Bool.and_eq_true, decide_eq_true_eq] at sendable
      rcases sendable with (rfl | ⟨-, below⟩) | ⟨-, below⟩
      · decide
      · have : c.toNat ≤ '~'.toNat := below
        exact this.trans (by decide)
      · exact below
    have other : ∀ d, isReplyChar d = false → c ≠ d := by
      rintro d never rfl
      rw [sendable] at never
      cases never
    simp [other _ (show isReplyChar '\x00' = false by decide), other _ (show isReplyChar '\n' = false by decide),
      other _ (show isReplyChar '\r' = false by decide), low]
  simp only [Headers.value?, chars, if_true, Option.isSome_some]

/-- The headers of a call, if the id of its request can be sent. -/
theorem exists_callHeaders? {context : RequestContext}
    (fine : isReplyHeader ("x-request-id", context.requestId) = true) :
    ∃ v, Headers.value? context.requestId = some v ∧
      callHeaders? context [] = some ⟨[("accept", "application/json"), ("x-request-id", v)]⟩ := by
  obtain ⟨v, read⟩ := Option.isSome_iff_exists.1 (isSome_value?_of_isReplyHeader fine)
  have accept : Headers.append? {} "accept" "application/json" = some ⟨[("accept", "application/json")]⟩ := by decide
  have named : Headers.isName "x-request-id" = true := by decide
  have other : Text.lower "x-request-id" ≠ "set-cookie" := by decide
  have absent : Headers.get? ⟨[("accept", "application/json")]⟩ "x-request-id" = none := by decide
  have added : Headers.append? ⟨[("accept", "application/json")]⟩ "x-request-id" context.requestId =
      some ⟨[("accept", "application/json"), ("x-request-id", v)]⟩ := by
    rw [Headers.append?, if_pos named, read, Option.map_some, if_neg other, absent]
    rfl
  refine ⟨v, read, ?_⟩
  change Headers.ofPairs? [("accept", "application/json"), ("x-request-id", context.requestId)] = _
  rw [Headers.ofPairs?, List.foldlM_cons, accept, Option.bind_eq_bind, Option.bind_some, List.foldlM_cons, added]
  rfl

/-- **A token that has been delivered** can stand in a header. -/
theorem isSome_value?_bearer {context : RequestContext} {header : Option String}
    (token : context.token = bearerToken? header) (delivered : ∀ h ∈ header, Delivered h) :
    ∀ t, context.bearer? = some t → (Headers.value? ("Bearer " ++ t)).isSome = true := by
  intro t held
  have found : bearerToken? header = some t := by
    obtain ⟨t', there, filled⟩ := Option.bind_eq_some_iff.1 held
    split at filled
    · cases filled
    · cases filled
      rw [← token, there]
  obtain ⟨-, h, rfl, -⟩ := bearerToken?_eq_some found
  have value := isValue_bearerHeader (delivered h rfl) found
  have kept : Headers.value? ("Bearer " ++ t) = some (bearerHeader t) := Headers.value?_of_isValue value
  rw [kept]
  rfl

/-- **What is asked for an order** of the other services. -/
def OrderRequest.Asks (order : OrderRequest) (q : ServiceRequest) : Prop :=
  q = userRequest ∨ q = productRequest order.productId

/-- A call for an order that cannot be built has no address. -/
theorem OrderRequest.Asks.exists_unjoined {s : Service} {context : RequestContext} {order : OrderRequest}
    {q : ServiceRequest} {header : Option String} (asks : order.Asks q)
    (failed : prepareCall s.registry context q = .error .unbuildable)
    (token : context.token = bearerToken? header) (delivered : ∀ h ∈ header, Delivered h)
    (fine : isReplyHeader ("x-request-id", context.requestId) = true) :
    ∃ base, s.registry.resolve? q.service = some base ∧ joinUrl? base q.path = none := by
  have plain : q.headers = [] := by rcases asks with rfl | rfl <;> rfl
  obtain ⟨v, -, dressed⟩ := exists_callHeaders? fine
  rw [← plain] at dressed
  exact BearerGate.exists_unjoined failed dressed (isSome_value?_bearer token delivered)

/-- Only a call that cannot be built is told with status 500. -/
theorem Settling.exists_unbuildable {s : Service} {context : RequestContext} {order : OrderRequest}
    {calls : List (OutboundCall × CallEnd)} {status : Nat} {placed : Option OrderInput}
    (settling : Settling s context order calls status placed) (internal : status = 500) :
    ∃ q, order.Asks q ∧ prepareCall s.registry context q = .error .unbuildable := by
  have unbuildable : ∀ {fault : CallFault}, fault.status = 500 → fault = .unbuildable := by
    intro fault told
    cases fault with
    | unknownService service => cases told
    | unbuildable => rfl
  cases settling with
  | uncalled failed =>
    rw [unbuildable internal] at failed
    exact ⟨_, .inl rfl, failed⟩
  | unasked named failed =>
    rw [unbuildable internal] at failed
    exact ⟨_, .inr rfl, failed⟩
  | _ => cases internal

/-- All calls that settling makes have been prepared. -/
theorem Settling.exists_prepared {s : Service} {context : RequestContext} {r : OrderRequest}
    {calls : List (OutboundCall × CallEnd)} {status : Nat} {placed : Option OrderInput}
    (settling : Settling s context r calls status placed) : ∀ made ∈ calls, ∃ q, Prepared s context q made.1 := by
  have both : ∀ {user product : OutboundCall × CallEnd}, Prepared s context userRequest user.1 →
      Prepared s context (productRequest r.productId) product.1 →
      ∀ made ∈ [user, product], ∃ q, Prepared s context q made.1 := by
    intro user product first second made member
    rcases List.mem_cons.1 member with rfl | last
    · exact ⟨_, first⟩
    · rw [List.mem_singleton.1 last]
      exact ⟨_, second⟩
  have one : ∀ {user : OutboundCall × CallEnd}, Prepared s context userRequest user.1 →
      ∀ made ∈ [user], ∃ q, Prepared s context q made.1 := by
    intro user first made member
    rw [List.mem_singleton.1 member]
    exact ⟨_, first⟩
  cases settling with
  | uncalled failed =>
    intro made member
    cases member
  | nameless prepared nothing => exact one prepared
  | unasked named failed => exact one named.prepared
  | gone named prepared missing => exact both named.prepared prepared
  | offerless named prepared nothing there => exact both named.prepared prepared
  | short named prepared gives less => exact both named.prepared prepared
  | settled named prepared gives enough => exact both named.prepared prepared

/-- The first call is the one for the name of the caller. -/
theorem Settling.prepared_first {s : Service} {context : RequestContext} {r : OrderRequest}
    {calls : List (OutboundCall × CallEnd)} {status : Nat} {placed : Option OrderInput}
    (settling : Settling s context r calls status placed) :
    ∀ made ∈ calls.head?, Prepared s context userRequest made.1 := by
  have first : ∀ {user : OutboundCall × CallEnd}, Prepared s context userRequest user.1 →
      ∀ {later : List (OutboundCall × CallEnd)}, ∀ made ∈ (user :: later).head?, Prepared s context userRequest made.1 := by
    intro user prepared later made member
    cases member
    exact prepared
  cases settling with
  | uncalled failed =>
    intro made member
    cases member
  | nameless prepared nothing => exact first prepared
  | unasked named failed => exact first named.prepared
  | gone named prepared missing => exact first named.prepared
  | offerless named prepared nothing there => exact first named.prepared
  | short named prepared gives less => exact first named.prepared
  | settled named prepared gives enough => exact first named.prepared

section Tokens

variable {s : Service} {r : Request} {context : RequestContext} {arrival last : ServiceState}
  {turns : List (Turn ServiceState)} {reply : Reply}

/-- A request that calls others has been vouched for, and its calls are those of settling an order. -/
theorem Placing.exists_settling (placing : Placing s r context arrival turns last reply)
    (calls : callsOf turns ≠ []) :
    ∃ caller order status placed, Vouched s.gate r .anyone turns caller ∧
      Settling s context order (callsOf turns) status placed := by
  cases placing with
  | refused gate uncalled unchanging => exact absurd uncalled calls
  | unreadable faulty status uncalled unchanging => exact absurd uncalled calls
  | invalid read unfit status uncalled unchanging => exact absurd uncalled calls
  | failed vouched read fit settling unchanging => exact ⟨_, _, _, _, vouched, settling⟩
  | placed vouched read fit status settling turning text => exact ⟨_, _, _, _, vouched, settling⟩

/-- **All calls for an order bear the token of the request.** -/
theorem Placing.bears (placing : Placing s r context arrival turns last reply)
    (token : context.token = bearerToken? (r.header? "authorization"))
    (delivered : ∀ h ∈ r.header? "authorization", Delivered h) :
    ∀ made ∈ callsOf turns, ∃ t, bearerToken? (r.header? "authorization") = some t ∧ made.1.Bears t := by
  intro made member
  obtain ⟨caller, order, status, placed, vouched, settling⟩ := placing.exists_settling (List.ne_nil_of_mem member)
  obtain ⟨q, prepared⟩ := settling.exists_prepared made member
  cases vouched with
  | @intro raw _ _ _ _ _ _ _ _ own written answered accepted allowed =>
    obtain ⟨-, header, there, -⟩ := bearerToken?_eq_some own
    refine ⟨raw, own, bears_of_prepared prepared (token.trans own) (delivered header there) ?_⟩
    rw [← there]
    exact own

/-- **Only where an address cannot be built** does a request for an order end with status 500. -/
theorem Placing.exists_unjoined (placing : Placing s r context arrival turns last reply)
    (token : context.token = bearerToken? (r.header? "authorization"))
    (delivered : ∀ h ∈ r.header? "authorization", Delivered h)
    (fine : isReplyHeader ("x-request-id", context.requestId) = true) (status : reply.status = 500) :
    ∃ order : OrderRequest, ∃ q base, order.Asks q ∧ s.registry.resolve? q.service = some base ∧
      joinUrl? base q.path = none := by
  cases placing with
  | refused gate uncalled unchanging =>
    rw [status] at gate
    exact absurd gate (by decide)
  | @unreadable f faulty told uncalled unchanging =>
    have listed := f.status_mem
    rw [← told, status] at listed
    exact absurd listed (by decide)
  | invalid read unfit told uncalled unchanging =>
    rw [status] at told
    cases told
  | @failed body order caller vouched read fit settling unchanging =>
    obtain ⟨q, asks, failed⟩ := settling.exists_unbuildable status
    obtain ⟨base, resolved, unjoined⟩ := asks.exists_unjoined failed token delivered fine
    exact ⟨order, q, base, asks, resolved, unjoined⟩
  | placed vouched read fit told settling turning text =>
    rw [status] at told
    cases told

/-- Without status 201 a request changes nothing. -/
theorem Placing.unchanging_of_ne (placing : Placing s r context arrival turns last reply)
    (other : reply.status ≠ 201) : Unchanging (steps arrival turns last) := by
  cases placing with
  | placed vouched read fit status settling turning text => exact absurd status other
  | refused gate uncalled unchanging => exact unchanging
  | unreadable faulty status uncalled unchanging => exact unchanging
  | invalid read unfit status uncalled unchanging => exact unchanging
  | failed vouched read fit settling unchanging => exact unchanging

/-- **With status 201 an order is placed.** -/
theorem Placing.exists_placed (placing : Placing s r context arrival turns last reply) (status : reply.status = 201) :
    ∃ body order input before createdAt, readBody r = .ok body ∧ OrderRequest.ofBody (orderBody body) = .fine order ∧
      Settling s context order (callsOf turns) 201 (some input) ∧
      Turning (steps arrival turns last) before (before.withOrder ⟨input.members, createdAt⟩) ∧
      reply.text = (Order.toJson ⟨before.orders.nextId, ⟨input.members, createdAt⟩⟩).render := by
  cases placing with
  | placed vouched read fit status settling turning text => exact ⟨_, _, _, _, _, read, fit, settling, turning, text⟩
  | refused gate uncalled unchanging =>
    rw [status] at gate
    exact absurd gate (by decide)
  | @unreadable f faulty told uncalled unchanging =>
    have listed := f.status_mem
    rw [← told, status] at listed
    exact absurd listed (by decide)
  | invalid read unfit told uncalled unchanging =>
    rw [status] at told
    cases told
  | failed vouched read fit settling unchanging =>
    have listed := settling.status_mem
    rw [status] at listed
    exact absurd listed (by decide)

/-- **What is placed** comes from two answers. -/
theorem Settling.exists_answers {order : OrderRequest} {calls : List (OutboundCall × CallEnd)} {status : Nat}
    {input : OrderInput} (settling : Settling s context order calls status (some input)) :
    ∃ user product name offer, calls = [user, product] ∧ Named s context user name ∧
      Prepared s context (productRequest order.productId) product.1 ∧ product.2.Gives ProductOffer.ofJson offer ∧
      order.quantity ≤ offer.stock ∧ input = orderFor name order offer := by
  cases settling with
  | settled named prepared gives enough => exact ⟨_, _, _, _, rfl, named, prepared, gives, enough, rfl⟩

end Tokens

/-! ### A small shop -/

namespace SmallShop

/-- A pass for the user `s`, until late in the century. -/
def pass : String :=
  "eyJhbGciOiJSUzI1NiIsImtpZCI6ImsifQ.eyJzdWIiOiJzIiwiaXNzIjoiaSIsImF1ZCI6ImEiLCJleHAiOjQwMDAwMDAwMDB9.AQID"

def address (host : String) : Url where
  scheme := "http"
  host := some host
  path := .segments [""]

/-- The services of the shop; they differ in their names and in the claim that holds the roles. -/
def service (name : ServiceName) (rolesSetting : String) : Service where
  config :=
    { environment := "test", serviceName := name, host := "", port := 0, logLevel := "info"
      corsAllowedOrigins := [], downstreamTimeoutMs := 1000, serviceUrls := [], gatewayRoutes := []
      auth :=
        { issuer := "i", audience := "a", jwksUri := "", rolesClaimPath := rolesSetting, algorithms := [.rs256]
          clockToleranceSec := 0, jwksCacheTtlMs := 0, jwksRefreshCooldownMs := 0, jwksFetchTimeoutMs := 0 } }
  registry := ⟨[("user-service", address "users.test"), ("product-service", address "products.test")]⟩
  gate := { validator := { issuer := "i", audience := "a" }, check := fun _ _ _ bytes => bytes = [1, 2, 3], rolesSetting }

/-- The service for orders. -/
def shop : Service := service .orderService "roles"

/-- The service for users. -/
def users : Service := service .userService "realm_access.roles"

/-- A success with a text of plain characters that is JSON. -/
def jsonReply (text : String) : TransportReply where
  status := 200
  headers := ⟨[("content-type", "application/json")]⟩
  body := text.toList.map fun c => c.toNat.toUInt8

/-- A world that knows one key and one product, with what the user service answers. -/
def answers (user : OutboundCall → Option TransportReply) : (q : Ask) → q.Answer
  | .time => (0 : Number)
  | .timer => (0 : Int)
  | .requestNumber => (0 : Nat)
  | .key _ => .found ⟨"k", .rsa ⟨33, 3⟩, .rs256⟩
  | .refreshKeys => .count 0
  | .heldKeys => ⟨[], none⟩
  | .keyStats => {}
  | .call call =>
    { reply := if call.url.host = some "users.test" then user call
        else some (jsonReply "\x7b\"id\":7,\"name\":\"n\",\"price\":2,\"stock\":3\x7d") }
  | .log _ => ()
  | .record _ => ()
  | .metricsText => ""

theorem real_answers (user : OutboundCall → Option TransportReply) (q : Ask) : Real q (answers user q) := by
  cases q with
  | time =>
    have start : (0 : Number) = .finite ((0 : Nat) * Number.scale) := Number.ofNat_of_small (by decide)
    change ((Instant.ofMillis 0).text?).isSome = true
    rw [start, Int.natCast_zero, Int.zero_mul, Instant.ofMillis, Number.truncate?, Int.zero_tdiv]
    rfl
  | key keyId => exact ⟨.key (some ⟨⟨"k", .rsa ⟨33, 3⟩, .rs256⟩, 0⟩), rfl⟩
  | _ => trivial

/-- Everything that happens in that world is real. -/
theorem real_of_gives {user : OutboundCall → Option TransportReply} {events : List Site.Event}
    (given : ∀ e ∈ events, e.Gives fun q a => answers user q = a) : ∀ e ∈ events, e.Gives Real := by
  refine fun e member => (given e member).mono fun q a same => ?_
  rw [← same]
  exact real_answers user q

/-! What a pass says, and that it is accepted: found out once, and not again in every run. -/

/-- What a pass of the user says that expires at some second. -/
def passPayload (exp : Number) : Members :=
  [("sub", .string "s"), ("iss", .string "i"), ("aud", .string "a"), ("exp", .number exp)]

/-- The token of such a pass. -/
def passToken (raw : String) (exp : Number) : Token where
  raw
  header := [("alg", .string "RS256"), ("kid", .string "k")]
  payload := passPayload exp
  algorithm := "RS256"
  subject := "s"

/-- Whether a payload is one of a pass. -/
def isPassPayload (exp : Number) : Option Members → Bool
  | some [(sub, .string s), (iss, .string i), (aud, .string a), (e, .number n)] =>
    (sub, s, iss, i, aud, a, e, n) == ("sub", "s", "iss", "i", "aud", "a", "exp", exp)
  | _ => false

theorem eq_of_isPassPayload {exp : Number} {ms : Option Members} (is : isPassPayload exp ms = true) :
    ms = some (passPayload exp) := by
  unfold isPassPayload at is
  split at is
  · cases beq_iff_eq.1 is
    rfl
  · cases is

theorem objectOf?_passHeader :
    Token.objectOf? "eyJhbGciOiJSUzI1NiIsImtpZCI6ImsifQ" = some [("alg", .string "RS256"), ("kid", .string "k")] := by
  cbv

theorem written_passToken {raw : String} {exp : Number} (segment : String)
    (parts : raw = "eyJhbGciOiJSUzI1NiIsImtpZCI6ImsifQ" ++ "." ++ segment ++ "." ++ "AQID")
    (whole : Token.IsSegment segment) (read : isPassPayload exp (Token.objectOf? segment) = true) :
    Token.Written raw (passToken raw exp) where
  same_text := rfl
  segments := ⟨_, _, "AQID", parts, by decide, whole, by decide, objectOf?_passHeader, eq_of_isPassPayload read⟩
  algorithm := rfl
  subject := rfl
  subject_ne := show "s" ≠ "" by decide

/-- The one key of the shop. -/
def shopKeyEntry : KeyEntry := ⟨"k", .rsa ⟨33, 3⟩, .rs256⟩

/-- A pass that expires later than at the beginning of time is accepted then. -/
theorem accepted_passToken {raw : String} {exp : Number} (name : ServiceName) (rolesSetting : String)
    (signed : (passToken raw exp).verifies (fun _ _ _ bytes => bytes = [1, 2, 3]) shopKeyEntry = true)
    (later : Number.divNat 0 1000 < exp + 0) :
    Token.Accepted (service name rolesSetting).gate.validator (service name rolesSetting).gate.check
      (passToken raw exp) "k" shopKeyEntry 0 where
  named := rfl
  accepted := List.mem_singleton_self _
  keyId_there := rfl
  keyId_ne := by decide
  signature := signed
  expiry := ⟨_, rfl, later⟩
  notBefore := by
    intro nbf there
    cases there
  issuer := rfl
  audience := .inl rfl

/-- What is done with a pass that is accepted is played from where the gate lets it in. -/
theorem played_passToken {name : ServiceName} {rolesSetting : String} {endpoints : List Endpoint} {m : Option Match}
    {r : Request} {raw : String} {exp : Number} (user : OutboundCall → Option TransportReply)
    (written : Token.Written raw (passToken raw exp))
    (accepted : Token.Accepted (service name rolesSetting).gate.validator (service name rolesSetting).gate.check
      (passToken raw exp) "k" shopKeyEntry 0)
    (routed : routed? endpoints r = some m) (plain : r.method ≠ "OPTIONS") (access : accessOf m = .needs .anyone)
    (own : bearerToken? (r.header? "authorization") = some raw) (st : ServiceState) :
    (respond (service name rolesSetting) endpoints r st).played (answers user) =
      ((some <$> letIn (service name rolesSetting) m r
        (admission (answers user) (service name rolesSetting).gate r (passToken raw exp))
        ((passToken raw exp).claims.principal rolesSetting) : Task _ _) st).played (answers user) := by
  have found : answers user (.key "k") = .found shopKeyEntry := rfl
  have allowed : ∀ roles, Requirement.anyone.allows roles = true := fun _ => Requirement.allows_iff.2 (.inl rfl)
  exact played_respond routed plain access own written found accepted (allowed _) st

/-- When the pass expires. -/
def passExpiry : Number := .finite (4000000000 * Number.scale)

/-- The pass has its payload, is signed and has not expired. -/
private theorem pass_checked :
    isPassPayload passExpiry
      (Token.objectOf? "eyJzdWIiOiJzIiwiaXNzIjoiaSIsImF1ZCI6ImEiLCJleHAiOjQwMDAwMDAwMDB9") = true ∧
    (passToken pass passExpiry).verifies (fun _ _ _ bytes => bytes = [1, 2, 3]) shopKeyEntry = true ∧
    Number.divNat 0 1000 < passExpiry + 0 := by
  decide +kernel

theorem written_pass : Token.Written pass (passToken pass passExpiry) :=
  written_passToken "eyJzdWIiOiJzIiwiaXNzIjoiaSIsImF1ZCI6ImEiLCJleHAiOjQwMDAwMDAwMDB9" (by decide) (by decide)
    pass_checked.1

theorem accepted_pass (name : ServiceName) (rolesSetting : String) :
    Token.Accepted (service name rolesSetting).gate.validator (service name rolesSetting).gate.check
      (passToken pass passExpiry) "k" shopKeyEntry 0 :=
  accepted_passToken name rolesSetting pass_checked.2.1 pass_checked.2.2

/-- The pass is the token of the header that carries it. -/
theorem bearerToken?_pass : bearerToken? (some ("Bearer " ++ pass)) = some pass := by
  have filled : pass.toList.isEmpty = false := by cbv
  have one_line : pass.toList.all (fun c => !Text.isLineEnd c) = true := by cbv
  have begins : pass.toList.head?.all (fun c => !Text.isBlank c) = true := by cbv
  refine bearerToken?_bearerHeader ⟨List.isEmpty_eq_false_iff.1 filled, fun c member => ?_, .inr fun c head => ?_⟩
  · simpa using List.all_eq_true.1 one_line c member
  · simpa using (Option.all_eq_true _ _).1 begins c head

/-- A request for two pieces of the product. -/
def order : Request where
  method := "POST"
  target := "/api/orders"
  headers := [("authorization", "Bearer " ++ pass), ("content-type", "application/json")]
  body := some "\x7b\"productId\":7,\"quantity\":2\x7d"

theorem deliverable_order : order.Deliverable := by
  have all : order.headers.all isReplyHeader = true := by cbv
  exact List.all_eq_true.1 all

theorem header_order : order.header? "authorization" = some ("Bearer " ++ pass) := by cbv

theorem delivered_order : ∀ h ∈ order.header? "authorization", Delivered h := by
  intro h there
  rw [header_order] at there
  cases there
  have first : (("Bearer " ++ pass).toList.head?.all fun c => c ≠ ' ' ∧ c ≠ '\t') = true := by cbv
  have last : (("Bearer " ++ pass).toList.getLast?.all fun c => c ≠ ' ' ∧ c ≠ '\t') = true := by cbv
  have chars : (("Bearer " ++ pass).toList.all fun c => c ≠ '\x00' ∧ c ≠ '\r' ∧ c ≠ '\n' ∧ c.toNat ≤ 255) = true := by
    cbv
  exact ⟨fun c head => of_decide_eq_true ((Option.all_eq_true _ _).1 first c head),
    fun c tail => of_decide_eq_true ((Option.all_eq_true _ _).1 last c tail),
    fun c member => of_decide_eq_true (List.all_eq_true.1 chars c member)⟩

theorem routed_order :
    routed? ServiceName.orderService.endpoints order = some (some ⟨.createOrder, []⟩) := by cbv

/-- The number of the product. -/
private def seven : Number := .finite (7 * Number.scale)

private theorem render_seven : seven.render = "7" := by
  have length : ∀ k, Decimal.pointPosition k =
      (Nat.toDigits 10 (k * Nat.pow 10 400 / Number.scale)).length - 400 := by
    intro k
    rw [Decimal.pointPosition, Number.length_digitsOf, Number.digitsOf_eq]
  have point : Decimal.pointPosition (7 * Number.scale) = 1 := by
    rw [length]
    decide +kernel
  have found : Decimal.ofDigits? (7 * Number.scale) 1 = some ⟨7, 0⟩ := by
    rw [Decimal.ofDigits?, point]
    decide +kernel
  have digits : Decimal.renderSteps (7 * Number.scale) = ['7'] := by
    rw [Decimal.renderSteps, Decimal.shortest_of_ofDigits? found]
    decide +kernel
  have steps : (7 * (Number.scale : Int)).natAbs = 7 * Number.scale := by decide +kernel
  rw [seven, Number.render, if_neg (by decide +kernel), steps, digits]
  decide +kernel

private def two : Number := .finite (2 * Number.scale)

private theorem asks_order :
    ∃ body, readBody order = .ok body ∧ OrderRequest.ofBody (orderBody body) = .fine ⟨seven, two⟩ := by
  have asked : (match readBody order with
      | .ok body =>
        match OrderRequest.ofBody (orderBody body) with
        | .fine r => r.productId == seven && r.quantity == two
        | .faulty _ _ => false
      | .error _ => false) = true := by decide +kernel
  split at asked
  · rename_i body read
    split at asked
    · rename_i r fine
      rw [Bool.and_eq_true, beq_iff_eq, beq_iff_eq] at asked
      obtain ⟨productId, quantity⟩ := r
      obtain ⟨rfl, rfl⟩ : productId = seven ∧ quantity = two := asked
      exact ⟨body, read, fine⟩
    · cases asked
  · cases asked

/-- What the product service is asked for, by the text of a number. -/
private def offerUnder (context : RequestContext) (text : String) : Handling ServiceState ProductOffer :=
  tryCatch (fetchResource shop context "product-service" ("/api/products/" ++ text) ProductOffer.ofJson) fun
    | .downstream e =>
      if e.status = some 404 then Handling.fail (.http (.notFound "Product" text)) else Handling.fail (.downstream e)
    | f => Handling.fail f

/-- What the user service at work answers; it calls nobody. -/
def naming (call : OutboundCall) : Option TransportReply :=
  match Deployment.requestOf call with
  | .ok r =>
    ((respond users ServiceName.userService.endpoints r {}).played (answers fun _ => none)).2.bind
      Deployment.transportReply
  | .error _ => none

/-- The call by which the order asks for the user's name, -/
def profileCall : OutboundCall where
  url := { scheme := "http", host := some "users.test", path := .segments ["api", "users", "me"] }
  method := "GET"
  headers := ⟨[("accept", "application/json"), ("x-request-id", "req-0"), ("authorization", "Bearer " ++ pass)]⟩

/-- as it comes to the user service, -/
def profileRequest : Request where
  target := "/api/users/me"
  headers := profileCall.headers.entries

/-- and what that answers. -/
def profileReply : TransportReply where
  status := 200
  headers := ⟨[("vary", "Origin"), ("access-control-expose-headers", "x-request-id, WWW-Authenticate, Retry-After"),
    ("x-request-id", "req-0"), ("content-type", "application/json; charset=utf-8")]⟩
  body := Text.Utf8.encode
    ("\x7b\"subject\":\"s\",\"username\":\"s\",\"email\":\"\",\"name\":null,\"givenName\":null," ++
      "\"familyName\":null,\"emailVerified\":false,\"roles\":[],\"expiresAt\":\"2096-10-02T07:06:40.000Z\"\x7d")

theorem eq_of_parts {t t' : TransportReply}
    (same : (t.status, t.headers, t.body) = (t'.status, t'.headers, t'.body)) : t = t' := by
  cases t
  cases t'
  cases same
  rfl

/-- Whether a call has gone out as the request for the profile. -/
private def goesOut : Except SendRefusal Request → Bool
  | .ok r => (r.method, r.target, r.headers, r.body) == ("GET", "/api/users/me", profileCall.headers.entries, none)
  | .error _ => false

private theorem eq_of_goesOut {sent : Except SendRefusal Request} (out : goesOut sent = true) :
    sent = .ok profileRequest := by
  cases sent with
  | error why => cases out
  | ok r =>
    cases r
    cases beq_iff_eq.1 out
    rfl

/-- Whether a reply is the one that tells the profile. -/
private def tellsProfile : Option TransportReply → Bool
  | some sent =>
    (sent.status, sent.headers, sent.body) == (profileReply.status, profileReply.headers, profileReply.body)
  | none => false

private theorem eq_of_tellsProfile {told : Option TransportReply} (tells : tellsProfile told = true) :
    told = some profileReply := by
  cases told with
  | none => cases tells
  | some sent => exact congrArg some (eq_of_parts (beq_iff_eq.1 tells))

theorem naming_profileCall : naming profileCall = some profileReply := by
  have routed : routed? ServiceName.userService.endpoints profileRequest = some (some ⟨.me, []⟩) := by decide +kernel
  have header : profileRequest.header? "authorization" = some ("Bearer " ++ pass) := by cbv
  have own : bearerToken? (profileRequest.header? "authorization") = some pass := by rw [header, bearerToken?_pass]
  have delivered : Deployment.requestOf profileCall = .ok profileRequest := eq_of_goesOut (by decide +kernel)
  have told : tellsProfile (((respond users ServiceName.userService.endpoints profileRequest {}).played
      (answers fun _ => none)).2.bind Deployment.transportReply) = true := by
    rewrite [users, played_passToken (fun _ => none) written_pass (accepted_pass _ _) routed (by decide) rfl own]
    decide +kernel
  rw [naming, delivered]
  exact eq_of_tellsProfile told

/-- The way of the order from where the gate lets it in, in a world that answers as the small shop's does. -/
private def orderWay : Step ServiceState (Option Reply) :=
  (some <$> letIn shop (some ⟨.createOrder, []⟩) order
    (admission (answers naming) shop.gate order (passToken pass passExpiry))
    ((passToken pass passExpiry).claims.principal "roles") : Task _ _) {}

/-- Whether a request has been answered with success and has left the one order. -/
private def placesFirst : ServiceState × Option Reply → Bool
  | (st, some own) => own.status == 201 && st.orders.records.map (fun o => (o.id, Order.isOf "s" o)) == [(1, true)]
  | (_, none) => false

private theorem of_placesFirst {ended : ServiceState × Option Reply} (places : placesFirst ended = true) :
    ended.2.map Reply.status = some 201 ∧
      ended.1.orders.records.map (fun o => (o.id, Order.isOf "s" o)) = [(1, true)] := by
  obtain ⟨st, _ | own⟩ := ended
  · cases places
  · obtain ⟨status, records⟩ := Bool.and_eq_true_iff.1 places
    exact ⟨congrArg some (beq_iff_eq.1 status), beq_iff_eq.1 records⟩

/-- Whether a turn calls the user service in another way than by the one call. -/
private def asksOtherwise (t : Turn ServiceState) : Bool :=
  match t.question with
  | .call c => c.url.host = some "users.test" && c ≠ profileCall
  | _ => false

/-- In a world where the user service has only that one answer the order is placed as the first one, and the only call
to the user service is that one call. -/
private theorem played_orderWay : placesFirst (orderWay.played (answers fun _ => some profileReply)) = true ∧
    (orderWay.turnsPlayed (answers fun _ => some profileReply)).any asksOtherwise = false := by
  obtain ⟨body, read, fine⟩ := asks_order
  have handled : ∀ context, createOrderHandler shop (inboundOf ⟨.createOrder, []⟩ order context body) =
      settle shop context ⟨seven, two⟩ >>= enter ⟨seven, two⟩ := fun context => createOrderHandler_eq fine
  have offered : ∀ context, fetchOffer shop context seven = offerUnder context "7" := by
    intro context
    rw [← render_seven]
    rfl
  simp only [orderWay, letIn, handle_eq, read, Endpoint.handler, handled, settle, offered]
  decide +kernel

/-- What the user service answers to that call is what it is played with. -/
private theorem answers_alike {t : Turn ServiceState} (only : asksOtherwise t = false) :
    answers naming t.question = answers (fun _ => some profileReply) t.question := by
  obtain ⟨s, question, answer, s'⟩ := t
  cases question with
  | call c =>
    simp only [answers]
    split
    · rename_i there
      simp only [asksOtherwise, there, decide_true, Bool.true_and, decide_eq_false_iff_not, not_not] at only
      rw [only, naming_profileCall]
    · rfl
  | _ => rfl

/-- **The order is placed,** as the first one. -/
theorem placed_order :
    ((respond shop ServiceName.orderService.endpoints order {}).played (answers naming)).2.map Reply.status =
      some 201 ∧
    ((respond shop ServiceName.orderService.endpoints order {}).played (answers naming)).1.orders.records.map
      (fun o => (o.id, Order.isOf "s" o)) = [(1, true)] := by
  have own : bearerToken? (order.header? "authorization") = some pass := by rw [header_order, bearerToken?_pass]
  have way : (respond shop ServiceName.orderService.endpoints order {}).played (answers naming) =
      orderWay.played (answers naming) := played_passToken naming written_pass (accepted_pass _ _) routed_order (by decide) rfl own {}
  obtain ⟨placed, called⟩ := played_orderWay
  have alike := Step.played_congr (answers fun _ => some profileReply) orderWay fun t member =>
    answers_alike (Bool.eq_false_iff.2 fun other => by simp [List.any_eq_false.1 called t member] at other)
  rewrite [way, alike]
  exact of_placesFirst placed

end SmallShop

/-! ### Wholly or not at all -/

/-- **A request has placed one order** in a run with some moves: the `n`-th request, with its reply. -/
inductive PlacesOne (s : Service) (v : Visit) (n : Nat) (ms : List Move) (own : Reply) : Prop
  | intro {context : RequestContext} {body : Json} {order : OrderRequest} {user product : OutboundCall × CallEnd}
      {name : String} {offer : ProductOffer} {createdAt : String} {earlier later : List Move} {move : Move}
      /- The request asks for so many pieces of a product, -/
      (read : readBody v.request = .ok body) (fit : OrderRequest.ofBody (orderBody body) = .fine order)
      (quantity : order.quantity.Counts)
      /- the user service has said what the caller's name is, -/
      (token : context.token = bearerToken? (v.request.header? "authorization"))
      (calls : callsOf v.turns = [user, product]) (named : Named s context user name)
      /- and after that the product service that there are enough of them. -/
      (prepared : Prepared s context (productRequest order.productId) product.1)
      (gives : product.2.Gives ProductOffer.ofJson offer) (enough : order.quantity ≤ offer.stock)
      /- One move adds the order behind all others, under the next number; the other moves add nothing. -/
      (run : ms = earlier ++ move :: later) (by_it : move.visit = n)
      (still : ∀ m ∈ movesOf n (earlier ++ later), m.after = m.before)
      (others : move.before.orders.records = created earlier)
      (next : move.before.orders.nextId = (created earlier).length + 1)
      (added : move.after = move.before.withOrder ⟨(orderFor name order offer).members, createdAt⟩)
      (text : own.text =
        (Order.toJson ⟨(created earlier).length + 1, ⟨(orderFor name order offer).members, createdAt⟩⟩).render) :
    PlacesOne s v n ms own

namespace Site

section Requests

variable {s : Service} {stores : ServiceState} {events : List Event} {n : Nat} {v : Visit} {m : Match}
  {st : ServiceState}

/-- **A request for an order in a run** ends as its way says, and its moves are the steps of that way. -/
theorem placing {reply : Option Reply} (real : ∀ e ∈ events, e.Gives Real)
    (there : (after s ServiceName.orderService.endpoints { state := stores } events).visits[n]? = some v)
    (routed : routed? ServiceName.orderService.endpoints v.request = some (some m))
    (creates : m.endpoint = .createOrder) (deliverable : v.request.Deliverable) (ended : v.standing = .done st reply) :
    ∃ own context, reply = some own ∧ context.token = bearerToken? (v.request.header? "authorization") ∧
      isReplyHeader ("x-request-id", context.requestId) = true ∧
      Placing s v.request context v.arrival v.turns st own ∧
      steps v.arrival v.turns st =
        (movesOf n (moves s ServiceName.orderService.endpoints { state := stores } events)).map Move.step := by
  obtain ⟨travels, heard, taken⟩ := visit_of_after real there
  have posts : v.request.method = "POST" := by
    have answers := (of_routed? routed).2.1
    rw [creates] at answers
    simpa [Endpoint.answers, Endpoint.methods] using answers
  have plain : v.request.method ≠ "OPTIONS" := by
    rw [posts]
    decide
  have access : accessOf (some m) = .needs (required (some m)) := by
    rw [accessOf, required, creates]
    rfl
  obtain ⟨own, rfl, ending⟩ := Visit.ending travels routed plain access ended heard deliverable
  obtain ⟨context, token, fine, placing⟩ := placing_of_ending creates posts ending heard deliverable
  refine ⟨own, context, rfl, token, fine, placing, ?_⟩
  rw [← taken, Visit.steps, ended]
  rfl

/-- **A request that has placed an order** has placed one at its place among all moves. -/
theorem placesOne {context : RequestContext} {own : Reply} (fresh : stores.orders = {})
    (real : ∀ e ∈ events, e.Gives Real) (token : context.token = bearerToken? (v.request.header? "authorization"))
    (placing : Placing s v.request context v.arrival v.turns st own)
    (own_steps : steps v.arrival v.turns st =
      (movesOf n (moves s ServiceName.orderService.endpoints { state := stores } events)).map Move.step)
    (status : own.status = 201) :
    PlacesOne s v n (moves s ServiceName.orderService.endpoints { state := stores } events) own := by
  obtain ⟨body, order, input, before, createdAt, read, fit, settling, turning, text⟩ := placing.exists_placed status
  obtain ⟨user, product, name, offer, calls, named, prepared, gives, enough, rfl⟩ := settling.exists_answers
  obtain ⟨front, back, split_up, still_front, still_back⟩ := turning
  rw [own_steps] at split_up
  obtain ⟨earlier, move, later, run, by_it, step, earlier_steps, later_steps⟩ := exists_move split_up
  obtain ⟨rfl, added⟩ := Prod.ext_iff.1 step
  obtain ⟨others, counted⟩ := orders_before fresh real run
  have next : move.before.orders.nextId = (created earlier).length + 1 := by rw [counted.next, others]
  rw [← earlier_steps, unchanging_moves_iff] at still_front
  rw [← later_steps, unchanging_moves_iff] at still_back
  have still : ∀ m ∈ movesOf n (earlier ++ later), m.after = m.before := by
    intro m member
    rw [movesOf, List.filter_append] at member
    rcases List.mem_append.1 member with early | late
    · exact still_front m early
    · exact still_back m late
  have told : own.text = (Order.toJson ⟨(created earlier).length + 1,
      ⟨(orderFor name order offer).members, createdAt⟩⟩).render := by
    rw [← next]
    exact text
  exact .intro read fit (counts_of_ofBody fit).2 token calls named prepared gives enough run by_it still others next
    added told

end Requests

/-- **A request for an order places one order, or does nothing.**  Why it does nothing, and what is called up to
then, is told by `Placing`. -/
theorem order_or_nothing (s : Service) {stores : ServiceState} (fresh : stores.orders = {}) {events : List Event}
    (real : ∀ e ∈ events, e.Gives Real) {n : Nat} {v : Visit} {m : Match} {st : ServiceState}
    {reply : Option Reply}
    (there : (after s ServiceName.orderService.endpoints { state := stores } events).visits[n]? = some v)
    (routed : routed? ServiceName.orderService.endpoints v.request = some (some m))
    (creates : m.endpoint = .createOrder) (deliverable : v.request.Deliverable)
    (delivered : ∀ h ∈ v.request.header? "authorization", Delivered h) (ended : v.standing = .done st reply) :
    ∃ own context, reply = some own ∧ context.token = bearerToken? (v.request.header? "authorization") ∧
      Placing s v.request context v.arrival v.turns st own ∧
      (own.status = 201 →
        PlacesOne s v n (moves s ServiceName.orderService.endpoints { state := stores } events) own) ∧
      (own.status ≠ 201 →
        ∀ move ∈ movesOf n (moves s ServiceName.orderService.endpoints { state := stores } events),
          move.after = move.before) ∧
      (own.status = 500 → ∃ order : OrderRequest, ∃ q base, order.Asks q ∧
        s.registry.resolve? q.service = some base ∧ joinUrl? base q.path = none) ∧
      ∀ made ∈ callsOf v.turns, ∃ t, bearerToken? (v.request.header? "authorization") = some t ∧ made.1.Bears t := by
  obtain ⟨own, context, rfl, token, fine, placing, own_steps⟩ :=
    placing real there routed creates deliverable ended
  refine ⟨own, context, rfl, token, placing, placesOne fresh real token placing own_steps, ?_,
    placing.exists_unjoined token delivered fine, placing.bears token delivered⟩
  intro other
  have still := placing.unchanging_of_ne other
  rw [own_steps] at still
  exact unchanging_moves_iff.1 still

/-- In the small shop the one request for an order places the one order. -/
theorem order_or_nothing_small_shop : ∃ turns v own, ∃ site : Site, ∃ events : List Event,
    site = { state := {} } ∧ events = site.servingOnly SmallShop.order (SmallShop.answers SmallShop.naming) turns ∧
    (∀ e ∈ events, e.Gives Real) ∧
    (site.after SmallShop.shop ServiceName.orderService.endpoints events).visits[0]? = some v ∧
    own.status = 201 ∧
    PlacesOne SmallShop.shop v 0 (site.moves SmallShop.shop ServiceName.orderService.endpoints events) own := by
  obtain ⟨own, replied, placed⟩ := Option.map_eq_some_iff.1 SmallShop.placed_order.1
  obtain ⟨turns, v, visits, request, -, ended, -⟩ := exists_servingOnly SmallShop.shop
    ServiceName.orderService.endpoints { state := {} } SmallShop.order (SmallShop.answers SmallShop.naming)
  have there : (after SmallShop.shop ServiceName.orderService.endpoints { state := {} }
      (servingOnly { state := {} } SmallShop.order (SmallShop.answers SmallShop.naming) turns)).visits[0]? =
        some v := by
    rw [visits]
    rfl
  have real := SmallShop.real_of_gives
    (gives_servingOnly { state := {} } SmallShop.order (SmallShop.answers SmallShop.naming) turns)
  obtain ⟨own', context, same, -, -, places, -, -, -⟩ := order_or_nothing SmallShop.shop (show ({} : ServiceState).orders = {} from rfl) real there
    (m := ⟨.createOrder, []⟩) (by rw [request]; exact SmallShop.routed_order) rfl
    (by rw [request]; exact SmallShop.deliverable_order) (by rw [request]; exact SmallShop.delivered_order) ended
  obtain rfl : own = own' := Option.some.inj (replied.symm.trans same)
  exact ⟨turns, v, own, _, _, rfl, rfl, real, there, placed, places placed⟩

end Site

end BearerGate
