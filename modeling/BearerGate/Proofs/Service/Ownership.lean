import BearerGate.Proofs.Service.Profile
import BearerGate.Proofs.Service.Reading

/-!
# Reading back one's own order

An order is stored under the name that the user service has answered, and shown to callers whose own token has that
name.  The order service and the user service come to the name each on its own, and may differ in all settings; but
both read it from the same token (`Vouched.username_eq`).  So whoever has placed an order finds it in every list of
orders from then on, and under its id (`Site.creator_reads_back`).
-/

namespace BearerGate

/-! ### Orders that are shown -/

/-- **A caller is shown an order:** in the list of orders, or by itself when it is asked for by its id. -/
def Shows (own : Reply) (o : Order) : Option String → Prop
  | none => own.status = 200 ∧
    ∃ orders : List Order, own.text = (Json.array (orders.map Order.toJson)).render ∧ o ∈ orders
  | some spelling => Spells spelling o.id → own.status = 200 ∧ own.text = (Order.toJson o).render

/-- A user is shown their own orders. -/
theorem shows_of_answered {r : Request} {username : String} {orders : List Order} {own : Reply}
    {wanted : Option String} (answered : Answered r username orders own wanted) {o : Order} (member : o ∈ orders)
    (of_user : Order.isOf username o = true) : Shows own o wanted := by
  cases wanted with
  | none => exact ⟨answered.1, _, answered.2, List.mem_filter.2 ⟨member, of_user⟩⟩
  | some spelling => exact fun spelled => answered.record o.id spelled o member rfl of_user

/-- **An order can be read by a user** from some events on, however the run goes on: a request for orders that arrives
later is turned away by the gate, or it is one of a caller whom the gate knows; and the user is shown the order. -/
def ReadableBy (s : Service) (stores : ServiceState) (events : List Site.Event) (username : String) (o : Order) :
    Prop :=
  ∀ {more : List Site.Event} {n : Nat} {v : Visit} {wanted : Option String} {st : ServiceState} {reply : Option Reply},
    (∀ e ∈ more, e.Gives Real) →
    (Site.after s ServiceName.orderService.endpoints { state := stores } events).visits.length ≤ n →
    (Site.after s ServiceName.orderService.endpoints { state := stores } (events ++ more)).visits[n]? = some v →
    v.request.AsksFor wanted → v.request.Deliverable → v.standing = .done st reply →
    ∃ own, reply = some own ∧
      ((∃ cause, IsRefusal s (some (orderMatch wanted)) v.request cause own) ∨
        ∃ reader, Vouched s.gate v.request .anyone v.turns reader ∧
          (reader.username = username → Shows own o wanted))

namespace Site

variable {s : Service} {stores : ServiceState} {events : List Event}

/-- **What has been created can be read by its owner** from then on. -/
theorem readableBy_of_created (fresh : stores.orders = {}) (real : ∀ e ∈ events, e.Gives Real) {o : Order}
    (there : o ∈ created (moves s ServiceName.orderService.endpoints { state := stores } events)) {username : String}
    (owned : Order.isOf username o = true) : ReadableBy s stores events username o := by
  intro more n v wanted st reply real_more later visited asks deliverable ended
  have real_all : ∀ e ∈ events ++ more, e.Gives Real := by
    intro e member
    rcases List.mem_append.1 member with early | late
    · exact real e early
    · exact real_more e late
  obtain ⟨-, own, rfl, refused | ⟨reader, orders, reading⟩⟩ := reads fresh real_all visited asks deliverable ended
  · exact ⟨own, rfl, .inl refused⟩
  · refine ⟨own, rfl, .inr ⟨reader, ?_⟩⟩
    cases reading with
    | @intro earlier rest move vouched run by_it counted answered =>
      refine ⟨vouched, fun same => ?_⟩
      rw [same] at answered
      obtain ⟨between, rfl⟩ := exists_earlier later by_it run
      have found : o ∈ created (moves s ServiceName.orderService.endpoints { state := stores } events ++ between) := by
        rw [created_append]
        exact List.mem_append_left _ there
      exact shows_of_answered answered found owned

end Site

/-! ### The name that is stored -/

/-- What is placed for a name is an order of that name. -/
theorem isOf_orderFor (name : String) (order : OrderRequest) (offer : ProductOffer) (id : Nat) (createdAt : String) :
    Order.isOf name ⟨id, ⟨(orderFor name order offer).members, createdAt⟩⟩ = true :=
  isOf_iff.2 rfl

/-- A move that places an order adds that order. -/
theorem added_of_withOrder {move : Move} {value : OrderRecord} (placed : move.after = move.before.withOrder value) :
    move.added = [⟨move.before.orders.nextId, value⟩] := by
  rw [Move.added, placed]
  exact List.drop_left

/-- **A call gives one thing only.** -/
theorem CallEnd.Gives.unique {α : Type} {e e' : CallEnd} {shape : Json → Option α} {a b : α} (gives : e.Gives shape a)
    (gives' : e'.Gives shape b) (same : e.reply = e'.reply) : a = b := by
  obtain ⟨reply, body, there, read, -, shaped⟩ := gives
  obtain ⟨reply', body', there', read', -, shaped'⟩ := gives'
  obtain rfl : reply = reply' := Option.some.inj (there.symm.trans (same.trans there'))
  obtain rfl : body = body' := Option.some.inj (read.symm.trans read')
  exact Option.some.inj (shaped.symm.trans shaped')

section Replies

variable {s u : Service} {context : RequestContext} {made : OutboundCall × CallEnd} {r : Request}
  {turns : List (Turn ServiceState)} {caller : Principal} {sent : TransportReply}

/-- **A reply of the user service** to a call that was prepared for a caller ends a request for a profile that bears
the caller's token. -/
theorem exists_introducing (prepared : Prepared s context userRequest made.1)
    (vouched : Vouched s.gate r .anyone turns caller)
    (token : context.token = bearerToken? (r.header? "authorization"))
    (fine : isReplyHeader ("x-request-id", context.requestId) = true) (deliverable : r.Deliverable)
    (delivered : ∀ h ∈ r.header? "authorization", Delivered h) (replied : ProfileReply u made.1 sent) :
    ∃ (r' : Request) (turns' : List (Turn ServiceState)) (own : Reply), r'.method = "GET" ∧ r'.Deliverable ∧
      bearerToken? (r'.header? "authorization") = bearerToken? (r.header? "authorization") ∧
      Introducing u r' turns' own ∧ Deployment.transportReply own = some sent ∧ sent.status = own.status := by
  obtain ⟨t, own⟩ : ∃ t, bearerToken? (r.header? "authorization") = some t := by
    cases vouched with
    | intro own written answered accepted allowed => exact ⟨_, own⟩
  cases replied with
  | @intro stores events n w last reply real there requested asks ended arrives =>
    have arrival := arrival_of_prepared prepared (token.trans own) fine deliverable delivered own requested
    obtain ⟨reply', same, introducing⟩ := Site.introducing real there asks arrival.deliverable ended
    obtain rfl : reply = reply' := Option.some.inj same
    have status : sent.status = reply.status := by
      obtain ⟨headers, -, rfl⟩ := Option.map_eq_some_iff.1 arrives
      rfl
    exact ⟨w.request, w.turns, reply, asks.gets, arrival.deliverable, arrival.token.trans own.symm, introducing,
      arrives, status⟩

/-- **The name that the user service answers** to a call that was prepared for a caller is the name of that caller. -/
theorem name_of_profileReply {name : String} (prepared : Prepared s context userRequest made.1)
    (gives : made.2.Gives userShape name) (vouched : Vouched s.gate r .anyone turns caller)
    (token : context.token = bearerToken? (r.header? "authorization"))
    (fine : isReplyHeader ("x-request-id", context.requestId) = true) (deliverable : r.Deliverable)
    (delivered : ∀ h ∈ r.header? "authorization", Delivered h)
    (answered : ∀ sent, made.2.reply = some sent → ProfileReply u made.1 sent) : name = caller.username := by
  obtain ⟨sent, body, replied, read, success, shaped⟩ := gives
  obtain ⟨r', turns', own, gets, deliverable', same_token, introducing, arrives, status⟩ :=
    exists_introducing prepared vouched token fine deliverable delivered (answered sent replied)
  obtain ⟨caller', sent', vouched', arrives', gives'⟩ :=
    introducing.gives gets deliverable' (by rw [← status]; exact success)
  obtain rfl : sent = sent' := Option.some.inj (arrives.symm.trans arrives')
  have named : name = caller'.username :=
    CallEnd.Gives.unique ⟨sent, body, replied, read, success, shaped⟩ gives' replied
  exact named.trans (vouched.username_eq vouched' same_token)

end Replies

namespace Site

/-- **Whoever has placed an order reads it back.**  A profile that the user service sends always passes the check that
the order service makes of it, and has the caller's name in it.  So if that user service has answered the call for
the name, whatever the settings of the two services, the order that has been placed is one of the name that the order
service itself finds in the token, and from then on it is shown to every caller of that name, as to every caller
with that token. -/
theorem creator_reads_back (s u : Service) :
    (∀ {stores : ServiceState} {events : List Event}, (∀ e ∈ events, e.Gives Real) →
      ∀ {n : Nat} {w : Visit} {last : ServiceState} {own : Reply},
      (after u ServiceName.userService.endpoints { state := stores } events).visits[n]? = some w →
      w.request.AsksForProfile → w.request.Deliverable → w.standing = .done last (some own) → own.status = 200 →
      ∃ caller sent, Vouched u.gate w.request .anyone w.turns caller ∧ Deployment.transportReply own = some sent ∧
        CallEnd.Gives { reply := some sent } userShape caller.username) ∧
    ∀ {stores : ServiceState}, stores.orders = {} → ∀ {events : List Event}, (∀ e ∈ events, e.Gives Real) →
      ∀ {n : Nat} {v : Visit} {m : Match} {st : ServiceState} {own : Reply},
      (after s ServiceName.orderService.endpoints { state := stores } events).visits[n]? = some v →
      routed? ServiceName.orderService.endpoints v.request = some (some m) → m.endpoint = .createOrder →
      v.request.Deliverable → (∀ h ∈ v.request.header? "authorization", Delivered h) →
      v.standing = .done st (some own) → own.status = 201 →
      (∀ made ∈ (callsOf v.turns).head?, ∀ sent, made.2.reply = some sent → ProfileReply u made.1 sent) →
      ∃ caller o, Vouched s.gate v.request .anyone v.turns caller ∧
        (∀ made ∈ (callsOf v.turns).head?, made.2.Gives userShape caller.username) ∧
        own.text = (Order.toJson o).render ∧
        o ∈ created (moves s ServiceName.orderService.endpoints { state := stores } events) ∧
        Order.owner o = some (.string caller.username) ∧
        ReadableBy s stores events caller.username o ∧
        ∀ {r : Request} {turns : List (Turn ServiceState)} {reader : Principal},
          Vouched s.gate r .anyone turns reader →
          bearerToken? (r.header? "authorization") = bearerToken? (v.request.header? "authorization") →
          reader.username = caller.username := by
  refine ⟨?introduced, ?readable⟩
  case introduced =>
    intro stores events real n w last own there asks deliverable ended status
    obtain ⟨own', same, introducing⟩ := Site.introducing real there asks deliverable ended
    obtain rfl : own = own' := Option.some.inj same
    exact introducing.gives asks.gets deliverable (by rw [status]; rfl)
  case readable =>
    intro stores fresh events real n v m st own there routed creates deliverable delivered ended status answered
    obtain ⟨own', context, same, token, fine, placing, own_steps⟩ :=
      placing real there routed creates deliverable ended
    obtain rfl : own = own' := Option.some.inj same
    cases placesOne fresh real token placing own_steps status with
    | @intro _ body order user product name offer createdAt earlier later move read fit quantity _ calls named prepared
        gives enough run by_it still others next added text =>
      obtain ⟨caller, _, _, _, vouched, settling⟩ := placing.exists_settling (by rw [calls]; exact List.cons_ne_nil _ _)
      have first : (callsOf v.turns).head? = some user := by
        rw [calls]
        rfl
      have own_name : name = caller.username :=
        name_of_profileReply (settling.prepared_first user first) named.gives vouched token fine deliverable delivered
          (answered user first)
      have there_now : (⟨(created earlier).length + 1, ⟨(orderFor name order offer).members, createdAt⟩⟩ : Order) ∈
          created (moves s ServiceName.orderService.endpoints { state := stores } events) := by
        rw [run, created_append]
        refine List.mem_append_right _ (List.mem_append_left _ ?_)
        rw [added_of_withOrder added, next]
        exact List.mem_singleton_self _
      have owned := isOf_orderFor name order offer ((created earlier).length + 1) createdAt
      rw [own_name] at owned there_now text
      refine ⟨caller, _, vouched, ?_, text, there_now, isOf_iff.1 owned,
        readableBy_of_created fresh real there_now owned, fun knows token => vouched.username_eq knows token⟩
      intro made member
      obtain rfl : user = made := Option.some.inj (first.symm.trans member)
      rw [← own_name]
      exact named.gives

end Site

namespace SmallShop

/-- **In the shop the user service answers** the calls for a profile. -/
theorem profileReply_of_prepared {context : RequestContext} {call : OutboundCall} {sent : TransportReply}
    (prepared : Prepared shop context userRequest call) (replied : (answers naming (.call call)).reply = some sent) :
    ProfileReply users call sent := by
  have resolved : shop.registry.resolve? userRequest.service = some (address "users.test") := by decide
  have read : Url.parse? "http://users.test" none = some (address "users.test") := by decide +kernel
  have host : call.url.host = some "users.test" := by
    have joined : joinUrl? (address "users.test") userRequest.path =
        some { address "users.test" with path := .segments ["api", "users", "me"] } := by decide +kernel
    obtain ⟨log, made⟩ := prepared
    obtain ⟨base, resolved', joined', -⟩ := prepareCall_eq_ok made
    obtain rfl : address "users.test" = base := Option.some.inj (resolved.symm.trans resolved')
    have url := Option.some.inj (joined'.symm.trans joined)
    rw [url]
    rfl
  have named : naming call = some sent := by
    change (if call.url.host = some "users.test" then naming call else _) = some sent at replied
    rw [if_pos host] at replied
    exact replied
  unfold naming at named
  split at named
  · rename_i r requested
    obtain ⟨own, served, arrives⟩ := Option.bind_eq_some_iff.1 named
    obtain ⟨turns, w, visits, request, -, ended, -⟩ := Site.exists_servingOnly users
      ServiceName.userService.endpoints { state := {} } r (answers fun _ => none)
    have there : (Site.after users ServiceName.userService.endpoints { state := {} }
        (Site.servingOnly { state := {} } r (answers fun _ => none) turns)).visits[0]? = some w := by
      rw [visits]
      rfl
    have asks : r.AsksForProfile :=
      asksForProfile_of_root prepared resolved read (.inl rfl) rfl rfl (by decide) requested
    exact .intro (real_of_gives (Site.gives_servingOnly _ _ _ _)) there (by rw [request]; exact requested)
      (by rw [request]; exact asks) (by rw [ended]; exact congrArg _ served) arrives
  · cases named

/-- A request for the user's own profile is answered with one. -/
theorem introduced_user : ((respond users ServiceName.userService.endpoints (read "/api/users/me") {}).played
    (answers fun _ => none)).2.map Reply.status = some 200 := by
  have routed : routed? ServiceName.userService.endpoints (read "/api/users/me") = some (some ⟨.me, []⟩) := by
    decide +kernel
  rewrite [users, played_passToken _ written_pass (accepted_pass _ _) routed (by decide) rfl (bearerToken?_read _)]
  decide +kernel

theorem asksForProfile_read : (read "/api/users/me").AsksForProfile := ⟨rfl, by decide +kernel⟩

/-- There is a run of the service for users in which the user asks for the own profile. -/
theorem exists_introduced : ∃ (events : List Site.Event) (w : Visit) (last : ServiceState) (own : Reply),
    (∀ e ∈ events, e.Gives Real) ∧
      (Site.after users ServiceName.userService.endpoints { state := {} } events).visits[0]? = some w ∧
      w.request = read "/api/users/me" ∧ w.standing = .done last (some own) ∧ own.status = 200 := by
  obtain ⟨own, replied, status⟩ := Option.map_eq_some_iff.1 introduced_user
  obtain ⟨turns, w, visits, request, -, ended, -⟩ := Site.exists_servingOnly users
    ServiceName.userService.endpoints { state := {} } (read "/api/users/me") (answers fun _ => none)
  refine ⟨Site.servingOnly { state := {} } (read "/api/users/me") (answers fun _ => none) turns, w, _, own,
    real_of_gives (Site.gives_servingOnly _ _ _ _), ?_, request, by rw [ended]; exact congrArg _ replied, status⟩
  rw [visits]
  rfl

section Ordered

variable {target : String} {first more : List Site.Event} {ordered asked : Visit}

/-- The order of that day is the first request. -/
theorem Day.ordered_there (day : Day target first more ordered asked) :
    (Site.after shop ServiceName.orderService.endpoints { state := {} } first).visits[0]? = some ordered := by
  rw [day.ordering]
  rfl

theorem Day.routed (day : Day target first more ordered asked) :
    routed? ServiceName.orderService.endpoints ordered.request = some (some ⟨.createOrder, []⟩) := by
  rw [day.order]
  exact routed_order

theorem Day.deliverable (day : Day target first more ordered asked) : ordered.request.Deliverable := by
  rw [day.order]
  exact deliverable_order

theorem Day.delivered (day : Day target first more ordered asked) :
    ∀ h ∈ ordered.request.header? "authorization", Delivered h := by
  rw [day.order]
  exact delivered_order

theorem Day.gives_first (day : Day target first more ordered asked) :
    ∀ e ∈ first, e.Gives fun q a => answers naming q = a :=
  fun e member => day.given e (List.mem_append_left _ member)

/-- The order of that day is placed. -/
theorem Day.exists_own (day : Day target first more ordered asked) :
    ∃ st own, ordered.standing = .done st (some own) ∧ own.status = 201 := by
  obtain ⟨own, replied, status⟩ := Option.map_eq_some_iff.1 placed_order.1
  obtain ⟨st, placed⟩ := day.placed
  rw [replied] at placed
  exact ⟨st, own, placed, status⟩

/-- The call for the name is answered by the service for users. -/
theorem Day.answered (day : Day target first more ordered asked) :
    ∀ made ∈ (callsOf ordered.turns).head?, ∀ sent, made.2.reply = some sent → ProfileReply users made.1 sent := by
  intro made member sent reply
  obtain ⟨st, own, placed, -⟩ := day.exists_own
  obtain ⟨own', context, same, token, fine, placing, own_steps⟩ :=
    Site.placing (real_of_gives day.gives_first) day.ordered_there day.routed rfl day.deliverable placed
  have called : made ∈ callsOf ordered.turns := List.mem_of_mem_head? member
  obtain ⟨caller, order, told, put, vouched, settling⟩ := placing.exists_settling (List.ne_nil_of_mem called)
  have ending := ending_of_mem_callsOf (Site.visit_of_after day.gives_first day.ordered_there).2.1 called
  rw [ending] at reply
  exact profileReply_of_prepared (settling.prepared_first made member) reply

end Ordered

end SmallShop

namespace Site

/-- In the small shop the user is told their profile, places the order, and is shown it in the list. -/
theorem creator_reads_back_small_shop :
    (∃ events w own caller sent, (∀ e ∈ events, Event.Gives Real e) ∧
      (after SmallShop.users ServiceName.userService.endpoints { state := {} } events).visits[0]? = some w ∧
      w.request = SmallShop.read "/api/users/me" ∧ own.status = 200 ∧
      Vouched SmallShop.users.gate w.request .anyone w.turns caller ∧ Deployment.transportReply own = some sent ∧
      CallEnd.Gives { reply := some sent } userShape caller.username) ∧
    ∃ first more ordered asked own shown caller o, SmallShop.Day "/api/orders" first more ordered asked ∧
      (∃ st, ordered.standing = .done st (some own)) ∧ own.status = 201 ∧
      Vouched SmallShop.shop.gate ordered.request .anyone ordered.turns caller ∧
      Order.owner o = some (.string caller.username) ∧ own.text = (Order.toJson o).render ∧
      (∃ st, asked.standing = .done st (some shown)) ∧ Shows shown o none := by
  obtain ⟨introduced, readable⟩ := creator_reads_back SmallShop.shop SmallShop.users
  refine ⟨?_, ?_⟩
  · obtain ⟨events, w, last, own, real, there, request, ended, status⟩ := SmallShop.exists_introduced
    obtain ⟨caller, sent, vouched, arrives, gives⟩ := introduced real there
      (by rw [request]; exact SmallShop.asksForProfile_read) (by rw [request]; exact SmallShop.deliverable_read _) ended
      status
    exact ⟨events, w, own, caller, sent, real, there, request, status, vouched, arrives, gives⟩
  · obtain ⟨first, more, ordered, asked, day⟩ := SmallShop.exists_day "/api/orders"
    obtain ⟨st, own, placed, status⟩ := day.exists_own
    obtain ⟨caller, o, vouched, -, text, -, owned, reads, knows⟩ := readable rfl
      (SmallShop.real_of_gives day.gives_first) day.ordered_there day.routed rfl day.deliverable day.delivered placed
      status day.answered
    obtain ⟨shown, listed, list_status⟩ := Option.map_eq_some_iff.1 SmallShop.listed_order
    obtain ⟨st', ended⟩ := day.ended
    rw [listed] at ended
    obtain ⟨shown', same, told⟩ := reads
      (SmallShop.real_of_gives fun e member => day.given e (List.mem_append_right _ member))
      (by rw [day.ordering]; exact le_refl 1) day.reading (by rw [day.request]; exact SmallShop.asksFor_read)
      (by rw [day.request]; exact SmallShop.deliverable_read _) ended
    obtain rfl : shown = shown' := Option.some.inj same
    rcases told with ⟨cause, refusal⟩ | ⟨reader, vouched', shows⟩
    · obtain ⟨id, now, -, other⟩ := refusal
      have refused := cause.reason.status_mem
      rw [← other, list_status] at refused
      exact absurd refused (by decide)
    · have one_token : bearerToken? (asked.request.header? "authorization") =
          bearerToken? (ordered.request.header? "authorization") := by
        rw [day.request, day.order]
        rfl
      exact ⟨first, more, ordered, asked, own, shown, caller, o, day, ⟨st, placed⟩, status, vouched, owned, text,
        ⟨st', ended⟩, shows (knows vouched' one_token)⟩

end Site

end BearerGate
