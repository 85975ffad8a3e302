import BearerGate.Proofs.Service.Placing

/-!
# The orders over a whole run

Every request keeps to a contract that all handlers of its service keep to (`within_respond`).  So the orders of
the order service only ever grow: a move leaves them as they are or puts others behind them, and they stay counted
from 1 on without a gap (`Grows`).

`created` is what the moves of a run have added, one after the other.  `Site.records_before` says that at each move
of a run from a fresh store the orders are exactly those that the moves before it have added.
-/

namespace BearerGate

/-! ### All requests -/

section All

variable {c : Contract ServiceState} (liberal : c.Liberal)
include liberal

/-- **What does nothing keeps to every contract** that lets it ask its questions. -/
theorem Step.Within.of_idle {α : Type} {post : α → Prop} {st : ServiceState} {x : Step ServiceState α}
    (idle : x.Within (Contract.idle ServiceState c.relies) post st) : x.Within c post st := by
  induction x generalizing st with
  | done t a =>
    obtain ⟨rfl, holds⟩ := idle
    exact ⟨c.refl _, holds⟩
  | ask t q resume ih =>
    obtain ⟨rfl, uncalled, onward⟩ := idle
    exact ⟨c.refl _, liberal q uncalled, fun answer given u => ih answer u (onward answer given u)⟩

theorem within_guard (g : Gate) (access : Access) (label : Option String) (r : Request) (context : RequestContext) :
    Task.Within c (fun _ => True) (guard g access label r context : Task ServiceState Guarded) := by
  have gate : ∀ requirement, Task.Within c (fun _ => True) (g.task context requirement : Task ServiceState _) :=
    fun requirement st => Step.Within.of_idle liberal ((within_gate g context requirement st).mono fun _ _ => trivial)
  unfold guard
  split
  · exact .bind (.record liberal _) fun _ _ => .pure trivial
  · rename_i requirement
    refine .bind (gate requirement) fun result _ => ?_
    obtain ⟨decision, ruled⟩ := result
    cases decision with
    | authorized claims caller =>
      exact .bind (.record liberal _) fun _ _ => .bind (.log liberal _) fun _ _ => .pure trivial
    | rejected cause last =>
      exact .bind (.record liberal _) fun _ _ => .bind (.log liberal _) fun _ _ => .pure trivial
    | broken why => exact .pure trivial

/-- A request whose handler keeps to a contract keeps to it on its whole way. -/
theorem within_travel (s : Service) (m : Option Match) (r : Request)
    (handler : ∀ m', m = some m' → ∀ i, readBody r = .ok i.body → Handling.Within c (m'.endpoint.handler s i)) :
    Task.Within c (fun _ => True) (travel s m r) := by
  refine .bind (within_requestId liberal r) fun id _ => ?_
  refine .bind (.timer liberal) fun start _ => ?_
  have answered : Task.Within c (fun _ => True) (answerRequest s m r id) := by
    unfold answerRequest
    refine .bind (within_guard liberal s.gate (accessOf m) _ r _) fun guarded _ => ?_
    split
    · exact .bind (.time liberal) fun now _ => .pure trivial
    · exact .pure trivial
    · exact within_handle liberal s m r _ handler
  refine .bind answered fun result _ => ?_
  refine .bind (within_send liberal _ r result) fun reply _ => ?_
  refine .bind (.timer liberal) fun stop _ => ?_
  exact .bind (.record liberal _) fun _ _ => .pure trivial

/-- **Every request keeps to a contract** that the handlers of its service keep to with its body. -/
theorem within_respond (s : Service) {endpoints : List Endpoint} (r : Request)
    (handlers : ∀ e ∈ endpoints, ∀ i, readBody r = .ok i.body → Handling.Within c (e.handler s i)) :
    Task.Within c (fun _ => True) (respond s endpoints r) := by
  by_cases aside : r.method = "OPTIONS" ∨ routed? endpoints r = none
  · exact fun st => Step.Within.of_idle liberal (within_respond_aside s aside st)
  · rw [not_or] at aside
    obtain ⟨plain, readable⟩ := aside
    obtain ⟨m, routed⟩ := Option.ne_none_iff_exists'.1 readable
    rw [respond_of_routed routed plain]
    refine (within_travel liberal s m r fun m' same i read => ?_).map fun _ _ => trivial
    rw [same] at routed
    exact handlers m'.endpoint (of_routed? routed).1 i read

end All

/-! ### Orders grow -/

/-- **Orders that are counted:** their ids are the numbers from 1 on, without a gap. -/
structure Counted (store : OrderStore) : Prop where
  next : store.nextId = store.records.length + 1
  ids : store.records.map (·.id) = List.range' 1 store.records.length

theorem counted_empty : Counted {} := ⟨rfl, rfl⟩

theorem Counted.create {store : OrderStore} (counted : Counted store) (value : OrderRecord) :
    Counted (store.create value).1 where
  next := by simp [NumberedStore.create, counted.next]
  ids := by
    simp [NumberedStore.create, counted.ids, counted.next, List.range'_concat, Nat.add_comm]

/-- **Orders grow:** what is there stays, and what is counted goes on being counted. -/
structure Grows (st st' : ServiceState) : Prop where
  kept : st.orders.records <+: st'.orders.records
  counted : Counted st.orders → Counted st'.orders

/-- **Growing,** at times that are instants. -/
def Contract.growing : Contract ServiceState where
  relies := Real
  keeps := Grows
  asks _ := True
  refl _ := ⟨List.prefix_refl _, id⟩
  trans first rest := ⟨first.kept.trans rest.kept, rest.counted ∘ first.counted⟩

theorem liberal_growing : Contract.growing.Liberal := fun _ _ => trivial

/-- Placing an order lets the orders grow. -/
theorem grows_place (st : ServiceState) (members : Members) (now : Number)
    (shown : ((Instant.ofMillis now).text?).isSome = true) :
    Grows st { st with orders := (st.orders.place members now).1 } := by
  obtain ⟨createdAt, shown⟩ := Option.isSome_iff_exists.1 shown
  have placed : (st.orders.place members now).1 = (st.orders.create ⟨members, createdAt⟩).1 := by
    rw [OrderStore.place, shown]
  rw [placed]
  exact ⟨List.prefix_append _ _, fun counted => counted.create _⟩

/-- **Every request lets the orders grow** or leaves them as they are. -/
theorem within_orderService (s : Service) (r : Request) :
    Task.Within Contract.growing (fun _ => True) (respond s ServiceName.orderService.endpoints r) := by
  refine within_respond liberal_growing s r fun e member i _ => ?_
  have calls : ∀ call, Contract.growing.asks (.call call) := fun _ => trivial
  simp only [ServiceName.endpoints, List.mem_cons, List.not_mem_nil, or_false] at member
  rcases member with rfl | rfl | rfl | rfl | rfl | rfl
  · exact within_healthHandler liberal_growing s i
  · exact within_readyHandler liberal_growing s i
  · exact within_metricsHandler liberal_growing s i
  · exact within_listOrdersHandler s i
  · exact within_getOrderHandler liberal_growing s i
  · exact within_createOrderHandler liberal_growing calls grows_place s i

/-! ### Whose order it is -/

/-- **An order of a user.** -/
def Order.isOf (username : String) (o : Order) : Bool :=
  match o.owner with
  | some (.string name) => name = username
  | _ => false

/-- **The orders of a user,** as they stand among all orders. -/
def ordersOf (username : String) (orders : List Order) : List Order := orders.filter (Order.isOf username)

theorem isOf_iff {username : String} {o : Order} : o.isOf username = true ↔ o.owner = some (.string username) := by
  unfold Order.isOf
  split <;> simp_all

/-! ### What a run creates -/

/-- The orders that a move adds. -/
def Move.added (m : Move) : List Order := m.after.orders.records.drop m.before.orders.records.length

/-- **The orders that some moves add,** in the order of their creation. -/
def created (ms : List Move) : List Order := ms.flatMap Move.added

theorem created_append (first rest : List Move) : created (first ++ rest) = created first ++ created rest :=
  List.flatMap_append

theorem records_of_grows {m : Move} (grows : Grows m.before m.after) :
    m.after.orders.records = m.before.orders.records ++ m.added :=
  (List.prefix_append_drop grows.kept)

namespace Site

variable {s : Service} {site : Site}

/-- **The orders at a move of a run:** those of the start and those that the moves before it have added. -/
theorem records_before (sound : site.Sound s ServiceName.orderService.endpoints) (heard : site.Heard Real)
    {events : List Event} (real : ∀ e ∈ events, e.Gives Real) {earlier later : List Move} {move : Move}
    (taken : site.moves s ServiceName.orderService.endpoints events = earlier ++ move :: later) :
    move.before.orders.records = site.state.orders.records ++ created earlier ∧
      (Counted site.state.orders → Counted move.before.orders) := by
  induction events generalizing site earlier with
  | nil => cases earlier <;> cases taken
  | cons e events ih =>
    have here : e.Gives Real := real e List.mem_cons_self
    have onward : ∀ e' ∈ events, e'.Gives Real := fun e' member => real e' (List.mem_cons_of_mem _ member)
    have sound' := next_sound sound e
    have heard' : (site.next s ServiceName.orderService.endpoints e).Heard Real := next_heard heard here
    have state : (site.next s ServiceName.orderService.endpoints e).state = _ := next_state site e
    have all := keeps_of_mem_moves (c := Contract.growing) (within_orderService s) sound heard real
    rw [moves] at taken all
    cases first : site.move? s ServiceName.orderService.endpoints e with
    | none =>
      rw [first] at taken state
      rw [show site.state = (site.next s ServiceName.orderService.endpoints e).state from state.symm]
      exact ih sound' heard' onward taken
    | some own =>
      rw [first] at taken state all
      have given : own.before = site.state := by
        obtain ⟨v, -, rfl⟩ := Option.map_eq_some_iff.1 first
        rfl
      have grows : Grows own.before own.after := all own (by simp)
      cases earlier with
      | nil =>
        cases taken
        exact ⟨by rw [given, created, List.flatMap_nil, List.append_nil], fun counted => by rwa [given]⟩
      | cons _ earlier =>
        -- The first move of the run is among the earlier ones, and what it has added is there already.
        obtain ⟨rfl, rest⟩ := List.cons.inj taken
        obtain ⟨records, counted⟩ := ih sound' heard' onward rest
        have before : (site.next s ServiceName.orderService.endpoints e).state = own.after := state
        rw [before] at records counted
        refine ⟨?_, fun first => counted (grows.counted (by rwa [given]))⟩
        rw [records, records_of_grows grows, given, List.append_assoc]
        rfl

/-- **In a run from no orders at all** the orders at a move are those that the moves before it have created, and the
next id is one more than their number. -/
theorem orders_before {stores : ServiceState} (fresh : stores.orders = {}) {events : List Event}
    (real : ∀ e ∈ events, e.Gives Real) {earlier later : List Move} {move : Move}
    (taken : moves s ServiceName.orderService.endpoints { state := stores } events = earlier ++ move :: later) :
    move.before.orders.records = created earlier ∧ Counted move.before.orders := by
  obtain ⟨records, counted⟩ := records_before (sound_start stores) (heard_start Real stores) real taken
  rw [fresh] at records counted
  exact ⟨records, counted counted_empty⟩

end Site

end BearerGate
