import BearerGate.Proofs.Service.Beside
import BearerGate.Proofs.Service.Confinement
import BearerGate.Proofs.Service.Ordering
import BearerGate.Proofs.Url.Name

/-!
# Where calls lead

Every call goes to the address at which its service is registered: to that scheme, that host and that port, whatever
stands in the path that is called (`calls_keep_origin`).  The address of a call is built of the text of the registered
one, and a host that is read again there is the same host (`Host.eq_of_parse?_parse?`).  It need not be read again,
though: that depends on the labels of the host (`Host.Bounded`), and a service of which it does not hold is registered
and never called (`unreachable_long_label`).  Where calls are made is told by `Registry.callable?`, which gives the
address at which a service is registered if its text can be read.  The context of a request is taken as the gate hands
it on (`genuine_of_approach`), so that a call never fails by its headers.
-/

namespace BearerGate

open Url

/-- **The address at which a service is registered:** one of the web that has been read from a text. -/
structure Url.IsBase (base : Url) : Prop where
  read : ∃ text, Url.parse? text none = some base
  web : IsWeb base.scheme

/-- Whether the text of an address can be read as an address. -/
def Url.readsBack (u : Url) : Bool := (Url.parse? u.href none).isSome

/-- **The address at which a service can be called:** the registered one, if its text can be read. -/
def Registry.callable? (r : Registry) (service : String) : Option Url := (r.resolve? service).filter Url.readsBack

theorem Registry.callable?_eq_some_iff {r : Registry} {service : String} {base : Url} :
    r.callable? service = some base ↔ r.resolve? service = some base ∧ base.readsBack = true :=
  Option.filter_eq_some_iff

/-! ### The text of a base -/

section Base

variable {base : Url} (is_base : base.IsBase)
include is_base

/-- **The text of a base can be read** if no label of its host is too long. -/
theorem Url.IsBase.readsBack_of_bounded (bounded : ∀ h ∈ base.host, Host.Bounded h) : base.readsBack = true := by
  obtain ⟨text, read⟩ := is_base.read
  obtain ⟨host, segments, web, cs, host_read⟩ := web_of_parse? read is_base.web
  have again := Host.parse?_parse? host_read (bounded _ web.named)
  rw [String.toList_ofList] at again
  rw [Url.readsBack, web.parse?_href, again]
  rfl

/-- **The address of a call below `/api/`** can be built if the text of the base can be read, and only then. -/
theorem Url.IsBase.isSome_joinUrl? (rest : List Char) :
    (joinUrl? base (String.ofList (apiStart ++ rest))).isSome = base.readsBack := by
  obtain ⟨text, read⟩ := is_base.read
  obtain ⟨host, segments, web, -⟩ := web_of_parse? read is_base.web
  obtain ⟨root, inside, front, query, fragment, -, -, -, -, -, joined⟩ := joinUrl?_eq web rest
  rw [joined, Url.readsBack, web.parse?_href, Option.isSome_map, Option.isSome_map]

/-- **It is at the place of the base.** -/
theorem Url.IsBase.sameOrigin_of_joinUrl? {rest : List Char} {url : Url}
    (joined : joinUrl? base (String.ofList (apiStart ++ rest)) = some url) : url.SameOrigin base := by
  obtain ⟨text, read⟩ := is_base.read
  obtain ⟨host, segments, web, cs, host_read⟩ := web_of_parse? read is_base.web
  obtain ⟨root, inside, front, query, fragment, same, -, -, -, -, built⟩ := joinUrl?_eq web rest
  rw [built] at joined
  obtain ⟨h, again, rfl⟩ := Option.map_eq_some_iff.1 joined
  -- The host alone could have changed: all else is taken over from the text.
  obtain rfl := Host.eq_of_parse?_parse? host_read (by rwa [String.toList_ofList])
  exact ⟨same.scheme, web.named.symm, same.port⟩

end Base

/-! ### Contexts of requests -/

/-- **A context as a handler is given it:** its token is that of a header as HTTP delivers it, and its id can be sent
in a header. -/
structure RequestContext.Genuine (context : RequestContext) : Prop where
  token : ∃ header : Option String, context.token = bearerToken? header ∧ ∀ h ∈ header, Delivered h
  numbered : isReplyHeader ("x-request-id", context.requestId) = true

/-- **Such a context is that of every request that comes to a handler.** -/
theorem genuine_of_approach {g : Gate} {requirement : Requirement} {r : Request} (deliverable : r.Deliverable)
    (delivered : ∀ h ∈ r.header? "authorization", Delivered h) {u v : ServiceState}
    {turns : List (Turn ServiceState)} {ruling : Ruling} (real : ∀ t ∈ turns, Real t.question t.answer)
    (path : (approach g requirement r u).Reaches turns (.done v ruling)) : ruling.context.Genuine := by
  have up : Task.Within (Contract.idle ServiceState Real) _ (approach g requirement r) := within_approach g requirement r
  have quiet : Task.Within (Contract.idle ServiceState Real) _ (approach g requirement r) :=
    within_approach_context g requirement r
  have known := ((quiet u).of_reaches path real).2
  refine ⟨⟨_, known.1, delivered⟩, ?_⟩
  rw [known.2]
  exact ((up u).of_reaches path real).2.1 deliverable

section Below

variable {s : Service} {context : RequestContext} {r : ServiceRequest} {rest : List Char}
  (below_api : r.path = String.ofList (apiStart ++ rest))
  (bases : ∀ base, s.registry.resolve? r.service = some base → base.IsBase)
include below_api bases

/-- **A call that is prepared** goes to the place at which its service can be called. -/
theorem callable?_of_prepared {call : OutboundCall} (prepared : Prepared s context r call) :
    ∃ base, s.registry.callable? r.service = some base ∧ call.url.SameOrigin base := by
  obtain ⟨log, prepared⟩ := prepared
  obtain ⟨base, resolved, joined, -, -⟩ := prepareCall_eq_ok prepared
  have is_base := bases base resolved
  rw [below_api] at joined
  have readable : base.readsBack = true := by
    rw [← is_base.isSome_joinUrl? rest, joined]
    rfl
  exact ⟨base, Registry.callable?_eq_some_iff.2 ⟨resolved, readable⟩, is_base.sameOrigin_of_joinUrl? joined⟩

/-- **A call that cannot be prepared** is one to a service that cannot be called. -/
theorem callable?_of_failed (genuine : context.Genuine) (plain : r.headers = []) {fault : CallFault}
    (failed : prepareCall s.registry context r = .error fault) : s.registry.callable? r.service = none := by
  refine Option.eq_none_iff_forall_ne_some.2 fun base there => ?_
  obtain ⟨resolved, readable⟩ := Registry.callable?_eq_some_iff.1 there
  -- The headers of a genuine context can be written, so it is the address that failed.
  obtain ⟨header, token, delivered⟩ := genuine.token
  obtain ⟨v, -, dressed⟩ := exists_callHeaders? genuine.numbered
  rw [← (bases base resolved).isSome_joinUrl? rest, ← below_api] at readable
  obtain ⟨url, joined⟩ := Option.isSome_iff_exists.1 readable
  rw [← plain] at dressed
  obtain ⟨call, log, prepared⟩ := exists_prepareCall resolved dressed (isSome_value?_bearer token delivered) joined
  cases prepared.symm.trans failed

end Below

/-! ### Relayed requests -/

/-- **One call** to the place at which a service can be called, or none if there is no such place. -/
inductive CalledOnceAt : (place : Option Url) → (calls : List (OutboundCall × CallEnd)) → Prop
  | uncalled : CalledOnceAt none []
  | called {base : Url} {made : OutboundCall × CallEnd} (there : made.1.url.SameOrigin base) :
    CalledOnceAt (some base) [made]

section Handled

variable {s : Service} {i : Inbound} {st st' : ServiceState} {turns : List (Turn ServiceState)}
  {result : Except Fault Answer} (genuine : i.context.Genuine)
  (bases : ∀ name base, s.registry.resolve? name = some base → base.IsBase)
include genuine bases

/-- **A request is relayed by one call** to the place of its service. -/
theorem relay_keeps_origin {target : ServiceName}
    (mapped : Table.get? s.config.gatewayRoutes (segmentOf i.request.target) = some target)
    (below_api : "/api/".toList <+: i.request.target.toList)
    (path : ((relayHandler s i).run st).Reaches turns (.done st' result)) :
    CalledOnceAt (s.registry.callable? target.name) (callsOf turns) := by
  obtain ⟨rest, target_chars⟩ := below_api
  have asked : (relayRequest i target).path = String.ofList (apiStart ++ rest) := by
    change i.request.target = _
    rw [← String.ofList_toList (s := i.request.target), ← target_chars]
    rfl
  rcases relay_ends mapped path with ⟨fault, failed, none_made, -⟩ | ⟨call, log, ending, prepared, made, -⟩
  · have place := callable?_of_failed asked (bases target.name) genuine rfl failed
    change s.registry.callable? target.name = none at place
    rw [place, none_made]
    exact .uncalled
  · obtain ⟨base, place, there⟩ := callable?_of_prepared asked (bases target.name) ⟨log, prepared⟩
    change s.registry.callable? target.name = some base at place
    rw [place, made]
    exact .called there

/-! ### Orders -/

/-- **The calls for an order:** one to the place of the user service, and when that has given a name, one to the place of
the product service; none to a service that cannot be called. -/
inductive CalledForOrder : (users products : Option Url) → (calls : List (OutboundCall × CallEnd)) → Prop
  | uncalled {products : Option Url} : CalledForOrder none products []
  | nameless {users : Url} {products : Option Url} {user : OutboundCall × CallEnd}
      (there : user.1.url.SameOrigin users) (nothing : ∀ name, ¬user.2.Gives userShape name) :
    CalledForOrder (some users) products [user]
  | unasked {users : Url} {user : OutboundCall × CallEnd} {name : String} (there : user.1.url.SameOrigin users)
      (gives : user.2.Gives userShape name) : CalledForOrder (some users) none [user]
  | both {users products : Url} {user product : OutboundCall × CallEnd} {name : String}
      (there : user.1.url.SameOrigin users) (gives : user.2.Gives userShape name)
      (there' : product.1.url.SameOrigin products) : CalledForOrder (some users) (some products) [user, product]

omit genuine bases in
/-- Placing what is settled calls nobody. -/
theorem callsOf_enter {r : OrderRequest} {what : OrderInput × Number}
    (path : ((enter r what).run st).Reaches turns (.done st' result)) : callsOf turns = [] := by
  have alone : Task.Within (Contract.asking ServiceState fun q => ∀ call, q ≠ .call call) (fun _ => True)
      (enter r what).run := by
    have liberal : (Contract.asking ServiceState fun q => ∀ call, q ≠ .call call).Liberal := fun _ other => other
    refine Handling.Within.bind_ofTask (.modifyGet fun _ => trivial) fun placed _ => ?_
    cases placed with
    | none => exact .fail _
    | some order => exact .bind (.log liberal _) fun _ => .pure _
  have asked := asked_of_asking alone path
  refine List.filterMap_eq_nil_iff.2 fun turn member => ?_
  obtain ⟨left, question, answer, back⟩ := turn
  cases question with
  | call call => exact absurd rfl (asked _ member call)
  | _ => rfl

/-- **What is asked for an order** is asked at the places of the services. -/
theorem settling_keeps_origin {order : OrderRequest} {calls : List (OutboundCall × CallEnd)} {status : Nat}
    {placed : Option OrderInput} (settling : Settling s i.context order calls status placed) :
    CalledForOrder (s.registry.callable? "user-service") (s.registry.callable? "product-service") calls := by
  have user_path : userRequest.path = String.ofList (apiStart ++ "users/me".toList) := by decide
  have product_path : (productRequest order.productId).path =
      String.ofList (apiStart ++ ("products/".toList ++ order.productId.render.toList)) := by
    rw [← String.toList_inj, String.toList_ofList, productRequest, String.toList_append]
    rfl
  have users : ∀ {call}, Prepared s i.context userRequest call →
      ∃ base, s.registry.callable? "user-service" = some base ∧ call.url.SameOrigin base :=
    callable?_of_prepared user_path (bases _)
  have products : ∀ {call}, Prepared s i.context (productRequest order.productId) call →
      ∃ base, s.registry.callable? "product-service" = some base ∧ call.url.SameOrigin base :=
    callable?_of_prepared product_path (bases _)
  -- Two calls are made in four of the ways an order can go, and what comes of the second one does not matter here.
  have both : ∀ {user product : OutboundCall × CallEnd} {name : String}, Named s i.context user name →
      Prepared s i.context (productRequest order.productId) product.1 →
      CalledForOrder (s.registry.callable? "user-service") (s.registry.callable? "product-service") [user, product] := by
    intro user product name named asked
    obtain ⟨base, place, there⟩ := users named.prepared
    obtain ⟨base', place', there'⟩ := products asked
    rw [place, place']
    exact .both there named.gives there'
  cases settling with
  | uncalled failed =>
    have place : s.registry.callable? "user-service" = none := callable?_of_failed user_path (bases _) genuine rfl failed
    rw [place]
    exact .uncalled
  | nameless known nothing =>
    obtain ⟨base, place, there⟩ := users known
    rw [place]
    exact .nameless there nothing
  | unasked named failed =>
    obtain ⟨base, place, there⟩ := users named.prepared
    have place' : s.registry.callable? "product-service" = none :=
      callable?_of_failed product_path (bases _) genuine rfl failed
    rw [place, place']
    exact .unasked there named.gives
  | gone named asked _ => exact both named asked
  | offerless named asked _ _ => exact both named asked
  | short named asked _ _ => exact both named asked
  | settled named asked _ _ => exact both named asked

/-- **An order makes the calls that it asks for,** and no others. -/
theorem order_keeps_origin {order : OrderRequest} (fit : OrderRequest.ofBody i.bodyObject = .fine order)
    (path : ((createOrderHandler s i).run st).Reaches turns (.done st' result)) :
    CalledForOrder (s.registry.callable? "user-service") (s.registry.callable? "product-service") (callsOf turns) := by
  rw [createOrderHandler_eq fit, ExceptT.run_bind] at path
  obtain ⟨first, rest, u, settled, settles, after, -, calls⟩ := callsOf_bind path
  have quiet : callsOf rest = [] := by
    cases settled with
    | error fault =>
      obtain ⟨rfl, -⟩ := eq_of_reaches_pure after
      rfl
    | ok what => exact callsOf_enter after
  obtain ⟨status, placed, settling, -⟩ := settling_of_path (counts_of_ofBody fit).2 settles
  rw [calls, quiet, List.append_nil]
  exact settling_keeps_origin genuine bases settling

end Handled

/-! ### All calls -/

/-- **Calls lead to the places of their services,** whatever stands in a target behind `/api/` and whichever product is
asked for, and a service can be called if no label of its host is too long. -/
theorem calls_keep_origin {s : Service} {i : Inbound} (genuine : i.context.Genuine)
    (bases : ∀ name base, s.registry.resolve? name = some base → base.IsBase) (st : ServiceState) :
    (∀ target, Table.get? s.config.gatewayRoutes (segmentOf i.request.target) = some target →
      "/api/".toList <+: i.request.target.toList → ∀ turns st' result,
        ((relayHandler s i).run st).Reaches turns (.done st' result) →
          CalledOnceAt (s.registry.callable? target.name) (callsOf turns)) ∧
    (∀ order, OrderRequest.ofBody i.bodyObject = .fine order → ∀ turns st' result,
      ((createOrderHandler s i).run st).Reaches turns (.done st' result) →
        CalledForOrder (s.registry.callable? "user-service") (s.registry.callable? "product-service") (callsOf turns)) ∧
    ∀ name base, s.registry.resolve? name = some base → (∀ h ∈ base.host, Host.Bounded h) →
      s.registry.callable? name = some base := by
  refine ⟨?_, ?_, ?_⟩
  · intro target mapped below_api turns st' result path
    exact relay_keeps_origin genuine bases mapped below_api path
  · intro order fit turns st' result path
    exact order_keeps_origin genuine bases fit path
  · intro name base resolved bounded
    exact Registry.callable?_eq_some_iff.2 ⟨resolved, (bases name base resolved).readsBack_of_bounded bounded⟩

/-! ### Two registries -/

private def placeOf (host : String) : Url where
  scheme := "http"
  host := some host
  path := .segments [""]

private theorem isBase_placeOf {host : String} (text : String) (read : Url.parse? text none = some (placeOf host)) :
    (placeOf host).IsBase where
  read := ⟨text, read⟩
  web := .inl rfl

private theorem bounded_placeOf {host : String}
    (short : (Text.piecesBy (· = '.') host.toList).all (fun label => decide (label.length ≤ Label.longest)) = true) :
    ∀ h ∈ (placeOf host).host, Host.Bounded h := by
  rintro h ⟨⟩ label member -
  exact of_decide_eq_true (List.all_eq_true.1 short label member)

/-- A gateway that also places orders. -/
private def bothServices : Service :=
  { gatewayTo (placeOf "users.test") with
    registry := ⟨[("user-service", placeOf "users.test"), ("product-service", placeOf "products.test")]⟩ }

/-- A request with a token, whose target looks like an address of its own, and whose body asks for an order. -/
private def askingElsewhere : Inbound :=
  { askingFor "/api/users/..//\\evil.test:80/@x" with
    context := { requestId := "r", token := some "t" }
    body := .object [("productId", .number (.finite (7 * Number.scale))),
      ("quantity", .number (.finite (2 * Number.scale)))] }

private theorem delivered_bearer : Delivered "Bearer t" := by
  have chars : "Bearer t".toList = ['B', 'e', 'a', 'r', 'e', 'r', ' ', 't'] := rfl
  constructor <;> simp [chars]

private theorem genuine_askingElsewhere : askingElsewhere.context.Genuine where
  token := by
    refine ⟨some "Bearer t", by decide, ?_⟩
    rintro h ⟨⟩
    exact delivered_bearer
  numbered := by
    change isReplyHeader ("x-request-id", "r") = true
    decide

private theorem exists_ofBody_askingElsewhere :
    ∃ order, OrderRequest.ofBody askingElsewhere.bodyObject = .fine order := by
  have fine : (match OrderRequest.ofBody askingElsewhere.bodyObject with
      | .fine _ => true
      | .faulty _ _ => false) = true := by decide +kernel
  split at fine
  · rename_i order fit
    exact ⟨order, fit⟩
  · cases fine

/-- Both are called where they are registered. -/
theorem calls_keep_origin_both : ∃ relayed ordered st st' result result' order,
    ((relayHandler bothServices askingElsewhere).run {}).Reaches relayed (.done st result) ∧
    ((createOrderHandler bothServices askingElsewhere).run {}).Reaches ordered (.done st' result') ∧
    OrderRequest.ofBody askingElsewhere.bodyObject = .fine order ∧
    CalledOnceAt (some (placeOf "users.test")) (callsOf relayed) ∧
    CalledForOrder (some (placeOf "users.test")) (some (placeOf "products.test")) (callsOf ordered) := by
  obtain ⟨relayed, st, result, relays⟩ := Step.exists_done ((relayHandler bothServices askingElsewhere).run {})
  obtain ⟨ordered, st', result', orders⟩ := Step.exists_done ((createOrderHandler bothServices askingElsewhere).run {})
  have users : (placeOf "users.test").IsBase := isBase_placeOf "http://users.test" (by decide +kernel)
  have products : (placeOf "products.test").IsBase := isBase_placeOf "http://products.test" (by decide +kernel)
  have bases : ∀ name base, bothServices.registry.resolve? name = some base → base.IsBase := by
    intro name base there
    obtain ⟨e, found, rfl⟩ := Option.map_eq_some_iff.1 there
    rcases List.mem_cons.1 (List.mem_of_find?_eq_some found) with rfl | second
    · exact users
    · rw [List.mem_singleton.1 second]
      exact products
  obtain ⟨order, fit⟩ := exists_ofBody_askingElsewhere
  have mapped : Table.get? bothServices.config.gatewayRoutes (segmentOf askingElsewhere.request.target) =
      some .userService := by
    change Table.get? [("users", ServiceName.userService)] _ = _
    decide
  obtain ⟨relay, place, callable⟩ := calls_keep_origin genuine_askingElsewhere bases {}
  have users_place := callable "user-service" _ rfl (bounded_placeOf (by decide))
  have products_place := callable "product-service" _ rfl (bounded_placeOf (by decide))
  have relay_made := relay _ mapped (by decide) _ _ _ relays
  have order_made := place _ fit _ _ _ orders
  change CalledOnceAt (bothServices.registry.callable? "user-service") _ at relay_made
  rw [users_place] at relay_made order_made
  rw [products_place] at order_made
  exact ⟨relayed, ordered, st, st', result, result', order, relays, orders, fit, relay_made, order_made⟩

/-! ### A service that is never called -/

/-- An address of the web with nothing but a host. -/
private theorem web_placeOf {host : List Char} (text : Host.HostText host) :
    Web (placeOf (String.ofList host)) host [""] where
  scheme := .inl rfl
  username := by rintro c ⟨⟩
  password := by rintro c ⟨⟩
  named := rfl
  hostText := text
  port := by rintro p ⟨⟩
  path := rfl
  rooted := List.cons_ne_nil _ _
  plain := by
    intro s member
    rw [List.mem_singleton.1 member]
    exact plain_empty
  query := by rintro q ⟨⟩
  fragment := by rintro f ⟨⟩

private theorem href_placeOf {host : List Char} (text : Host.HostText host) :
    (placeOf (String.ofList host)).href = "http://" ++ String.ofList host ++ "/" := by
  have front : frontText (placeOf (String.ofList host)) host [""] = "http://".toList ++ (host ++ ['/']) := by
    change "http".toList ++ ':' :: '/' :: '/' :: (([] ++ (host ++ [])) ++ ['/']) = _
    rw [List.append_nil]
    rfl
  rw [← String.toList_inj, toList_href (web_placeOf text), front, String.toList_append, String.toList_append,
    String.toList_ofList]
  simp [tailText, placeOf]

section Far

open Punycode Label

variable {n : Nat} (filled : 0 < n) (fits : farDelta n ≤ limit)

private theorem hostText_farText (n : Nat) : Host.HostText (farText n) :=
  Host.hostText_of_name (List.cons_ne_nil _ _)
    (of_mem_farText (P := fun c => Host.isForbiddenInName c = false) (by decide) (by decide) (by decide))

include filled fits

/-- **A base can be read** -/
private theorem parse?_farPlace : Url.parse? ("http://" ++ String.ofList (farText n) ++ "/") none =
    some (placeOf (String.ofList (farForm n))) := by
  have text := hostText_farText n
  rw [← href_placeOf text, (web_placeOf text).parse?_href, Host.parse?_farText filled fits]
  rfl

/-- **whose text cannot be read.** -/
private theorem readsBack_farPlace (beyond : limit < n + 1 + farDelta n) :
    (placeOf (String.ofList (farForm n))).readsBack = false := by
  have text : Host.HostText (farForm n) :=
    Host.hostText_of_name (by rintro ⟨⟩) (Host.not_forbidden_of_mem_farForm filled fits)
  rw [Url.readsBack, (web_placeOf text).parse?_href, Host.parse?_farForm filled fits beyond]
  rfl

end Far

/-- **A service whose host has too long a label** is registered and is never called. -/
theorem unreachable_long_label : ∃ base turns st' result,
    Url.parse? ("http://" ++ String.ofList (Punycode.farText 10500) ++ "/") none = some base ∧ IsWeb base.scheme ∧
    (askingFor "/api/users/me").context.Genuine ∧ "/api/".toList <+: "/api/users/me".toList ∧
    Table.get? (gatewayTo base).config.gatewayRoutes (segmentOf "/api/users/me") = some .userService ∧
    (gatewayTo base).registry.resolve? "user-service" = some base ∧ joinUrl? base "/api/users/me" = none ∧
    ((relayHandler (gatewayTo base) (askingFor "/api/users/me")).run {}).Reaches turns (.done st' result) ∧
    callsOf turns = [] := by
  have read := parse?_farPlace (n := 10500) (by decide) (by decide)
  have web : IsWeb (placeOf (String.ofList (Label.farForm 10500))).scheme := .inl rfl
  have unread := readsBack_farPlace (n := 10500) (by decide) (by decide) (by decide)
  generalize placeOf (String.ofList (Label.farForm 10500)) = base at read web unread
  have is_base : base.IsBase := ⟨⟨_, read⟩, web⟩
  have genuine : (askingFor "/api/users/me").context.Genuine :=
    { token := ⟨none, rfl, fun h member => by cases member⟩, numbered := by decide }
  have mapped : Table.get? (gatewayTo base).config.gatewayRoutes (segmentOf "/api/users/me") = some .userService := by
    change Table.get? [("users", ServiceName.userService)] _ = _
    decide
  have resolved : (gatewayTo base).registry.resolve? "user-service" = some base := rfl
  have unbuilt := is_base.isSome_joinUrl? "users/me".toList
  rw [unread, Option.isSome_eq_false_iff, Option.isNone_iff_eq_none] at unbuilt
  obtain ⟨turns, st', result, path⟩ :=
    Step.exists_done ((relayHandler (gatewayTo base) (askingFor "/api/users/me")).run {})
  have silent : callsOf turns = [] := by
    rcases relay_ends (i := askingFor "/api/users/me") mapped path with
      ⟨fault, -, none_made, -⟩ | ⟨call, log, ending, prepared, -, -⟩
    · exact none_made
    · obtain ⟨base', resolved', joined, -, -⟩ := prepareCall_eq_ok prepared
      obtain rfl : base = base' := Option.some.inj (resolved.symm.trans resolved')
      cases joined.symm.trans unbuilt
  exact ⟨base, turns, st', result, read, web, genuine, by decide, mapped, resolved, unbuilt, path, silent⟩

end BearerGate
