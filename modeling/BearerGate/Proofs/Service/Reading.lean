import BearerGate.Proofs.Service.Ordering

/-!
# Reading orders

A caller of the order service sees orders of their own.  `Answered` says what a caller is told who asks for orders,
by the orders that there are: asked for all, the caller's own in the order of their creation; asked for one by its id,
that order if it is the caller's, that it belongs to somebody else, or that there is none.  An id may be spelled in any
way that comes to its number (`Spells`).

At one of its moves a request for orders finds the orders as all moves before it have left them (`Site.reads`), and it
leaves everything as it is.
-/

namespace BearerGate

open Number

/-! ### Whose order it is -/

/-- Owners are compared as names of users. -/
theorem sameOwner_eq_isOf (username : String) (o : Order) :
    sameOwner o.owner (some (.string username)) = o.isOf username := by
  unfold Order.isOf
  cases o.owner with
  | none => rfl
  | some j => cases j <;> rfl

theorem listForUser_eq (orders : OrderStore) (username : String) :
    orders.listForUser username = ordersOf username orders.records := by
  simp only [OrderStore.listForUser, OrderStore.listFor, sameOwner_eq_isOf, ordersOf]

/-! ### Ids as they are spelled -/

/-- **A text spells an id:** as a number it is that whole number above zero. -/
def Spells (text : String) (id : Nat) : Prop := (ofText text).toNat? = some id ∧ 0 < id

/-- Numbers that count are those with a natural number above zero. -/
theorem counts_iff {n : Number} : n.Counts ↔ ∃ k, n.toNat? = some k ∧ 0 < k := by
  unfold Number.Counts isInteger toNat?
  cases n with
  | finite a =>
    have zero : (0 : Number) = .finite 0 := by decide +kernel
    have above : (0 : Number) < .finite a ↔ 0 < a := by
      rw [zero]
      exact decide_eq_true_iff
    have scale_pos : (0 : Int) < scale := by decide +kernel
    rw [above, toInt?]
    by_cases whole : a % scale = 0
    · obtain ⟨k, rfl⟩ := Int.dvd_of_emod_eq_zero whole
      rw [if_pos whole, Int.mul_ediv_cancel_left k scale_pos.ne']
      simp only [Option.isSome_some, true_and, Option.bind_some]
      constructor
      · intro positive
        have : 0 < k := pos_of_mul_pos_right positive scale_pos.le
        exact ⟨k.toNat, if_pos this.le, by omega⟩
      · rintro ⟨n, same, positive⟩
        split at same
        · cases same
          exact Int.mul_pos scale_pos (by omega)
        · cases same
    · rw [if_neg whole]
      constructor
      · rintro ⟨fraction, -⟩
        cases fraction
      · rintro ⟨k, fraction, -⟩
        cases fraction
  | _ =>
    constructor
    · rintro ⟨whole, -⟩
      cases whole
    · rintro ⟨k, same, -⟩
      cases same

/-- An id that is spelled passes its check. -/
theorem idParameter_of_spells {i : Inbound} {id : Nat} (spelled : Spells (i.parameter "id") id) :
    idParameter i = .fine (ofText (i.parameter "id")) := by
  have counts : (ofText (i.parameter "id")).Counts := counts_iff.2 ⟨id, spelled⟩
  obtain ⟨whole, positive⟩ := counts
  unfold idParameter Checked.writtenNumber Checked.bounded
  rw [if_neg (ne_nan_of_lt positive)]
  simp only [List.filterMap_cons, Checked.NumberBound.issue?, whole, positive, if_true, List.filterMap_nil]
  rfl

/-- What passes the check is spelled. -/
theorem spells_of_idParameter {i : Inbound} {n : Number} (fine : idParameter i = .fine n) :
    ∃ id, Spells (i.parameter "id") id :=
  counts_iff.1 (counts_of_bounded fine).2

/-! ### Answers -/

/-- What somebody is told who asks for an order of another user. -/
def ofAnotherUser : HttpError where
  status := 403
  code := "order.forbidden"
  message := "Order belongs to another user"

/-- **What a caller is told** of some orders who asks for one, as its id is spelled. -/
structure Told (r : Request) (username : String) (orders : List Order) (spelling : String) (own : Reply) : Prop where
  record : ∀ id, Spells spelling id → ∀ o ∈ orders, o.id = id → Order.isOf username o = true →
    own.status = 200 ∧ own.text = (Order.toJson o).render
  forbidden : ∀ id, Spells spelling id → ∀ o ∈ orders, o.id = id → Order.isOf username o = false →
    own.Tells (Fault.http ofAnotherUser).report r
  missing : ∀ id, Spells spelling id → (∀ o ∈ orders, o.id ≠ id) →
    own.Tells (Fault.http (.notFound "Order" (ofText spelling).render)).report r
  invalid : (∀ id, ¬Spells spelling id) → ∃ issues, own.Tells (invalidReport "Invalid order id" issues) r

/-- **What a caller is told** of some orders who asks for all, or for one. -/
def Answered (r : Request) (username : String) (orders : List Order) (own : Reply) : Option String → Prop
  | none => own.status = 200 ∧ own.text = (Json.array ((ordersOf username orders).map Order.toJson)).render
  | some spelling => Told r username orders spelling own

/-- What is told after the order under an id was looked for. -/
theorem told_of_find? {r : Request} {username spelling : String} {orders : List Order} {own : Reply} {id : Nat}
    (distinct : (orders.map (·.id)).Nodup) (spelled : Spells spelling id)
    (missing : orders.find? (·.id = id) = none →
      own.Tells (Fault.http (.notFound "Order" (ofText spelling).render)).report r)
    (record : ∀ o, orders.find? (·.id = id) = some o → Order.isOf username o = true →
      own.status = 200 ∧ own.text = (Order.toJson o).render)
    (forbidden : ∀ o, orders.find? (·.id = id) = some o → Order.isOf username o = false →
      own.Tells (Fault.http ofAnotherUser).report r) : Told r username orders spelling own := by
  have same : ∀ {id'}, Spells spelling id' → id' = id := by
    intro id' spelled'
    exact Option.some.inj (spelled'.1.symm.trans spelled.1)
  -- No two orders have one id, so the order that is found is the one with that id.
  have found : ∀ o ∈ orders, o.id = id → orders.find? (·.id = id) = some o := by
    intro o member named
    cases first : orders.find? (·.id = id) with
    | none => exact absurd (decide_eq_true named) (List.find?_eq_none.1 first o member)
    | some o' =>
      have named' : o'.id = id := by simpa using List.find?_some first
      rw [List.inj_on_of_nodup_map distinct (List.mem_of_find?_eq_some first) member (named'.trans named.symm)]
  refine ⟨?_, ?_, ?_, fun unspelled => absurd spelled (unspelled id)⟩
  · intro id' spelled' o member named of_caller
    exact record o (found o member (named.trans (same spelled'))) of_caller
  · intro id' spelled' o member named of_other
    exact forbidden o (found o member (named.trans (same spelled'))) of_other
  · intro id' spelled' never
    refine missing (List.find?_eq_none.2 fun o member named => never o member ?_)
    rw [same spelled']
    exact of_decide_eq_true named

/-! ### Requests for orders -/

/-- **A request for orders:** for all of them, or for the one under an id as it is spelled.  An id is spelled with at
most a hundred 16-bit units. -/
inductive Request.AsksFor (r : Request) : Option String → Prop
  | all {api orders : List SegmentChar} (gets : r.method = "GET")
      (path : Target.segments? r.target = some (some [api, orders])) (first : Target.isLiteral "api" api = true)
      (second : Target.isLiteral "orders" orders = true) : AsksFor r none
  | one {api orders id : List SegmentChar} (gets : r.method = "GET")
      (path : Target.segments? r.target = some (some [api, orders, id])) (first : Target.isLiteral "api" api = true)
      (second : Target.isLiteral "orders" orders = true)
      (short : Text.unitLength (Target.segmentText id) ≤ longestParameter) : AsksFor r (some (Target.segmentText id))

/-- What a request for orders is routed to. -/
def orderMatch : Option String → Match
  | none => ⟨.listOrders, []⟩
  | some spelling => ⟨.getOrder, [("id", spelling)]⟩

theorem Request.AsksFor.gets {r : Request} {wanted : Option String} (asks : r.AsksFor wanted) : r.method = "GET" := by
  cases asks <;> assumption

/-- **Requests for orders are routed to their endpoints.** -/
theorem routed_of_asksFor {r : Request} {wanted : Option String} (asks : r.AsksFor wanted) :
    routed? ServiceName.orderService.endpoints r = some (some (orderMatch wanted)) := by
  cases asks with
  | all gets path first second =>
    simp [routed?, route, path, gets, findMatch, ServiceName.endpoints, Endpoint.answers, Endpoint.methods,
      Endpoint.pattern, matchPattern, first, second, orderMatch]
  | one gets path first second short =>
    simp [routed?, route, path, gets, findMatch, ServiceName.endpoints, Endpoint.answers, Endpoint.methods,
      Endpoint.pattern, matchPattern, first, second, short, orderMatch]

/-! ### What the handlers do -/

section Handlers

variable {s : Service} {i : Inbound} {p : Principal} {u : ServiceState}

theorem listOrdersHandler_run (known : i.principalOf = .ok p) :
    (listOrdersHandler s i).run u =
      .done u (.ok (.ofStatus 200 (.array ((ordersOf p.username u.orders.records).map Order.toJson)))) := by
  rw [← listForUser_eq]
  unfold listOrdersHandler caller
  rw [known]
  rfl

/-- What comes of an order that was looked for. -/
def orderResult (username : String) (id : Number) : Option Order → Except Fault Answer
  | none => .error (.http (.notFound "Order" id.render))
  | some o => if o.isOf username then .ok (.ofStatus 200 (Order.toJson o)) else .error (.http ofAnotherUser)

theorem getOrderHandler_run (known : i.principalOf = .ok p) {n : Number} {id : Nat} (fine : idParameter i = .fine n)
    (whole : n.toNat? = some id) :
    (getOrderHandler s i).run u =
      .done u (orderResult p.username n (u.orders.records.find? (·.id = id))) := by
  have looked_up : n.toNat?.bind u.orders.get? = u.orders.records.find? (·.id = id) := by
    rw [whole]
    rfl
  unfold getOrderHandler caller
  rw [fine, known]
  dsimp only
  rw [Handling.run_bind_ofTask, Task.get_bind, looked_up]
  cases u.orders.records.find? (·.id = id) with
  | none => rfl
  | some o =>
    rw [orderResult, ← sameOwner_eq_isOf]
    by_cases own : sameOwner (Order.owner o) (some (.string p.username)) = true
    · rw [if_pos own]
      dsimp only
      rw [pure_bind, if_pos own]
      rfl
    · rw [if_neg own]
      dsimp only
      rw [pure_bind, if_neg own]
      rfl

end Handlers

/-! ### The whole way -/

/-- **How a request for orders ends,** along its turns.  It finds the orders at one step, and changes nothing. -/
inductive Reading (s : Service) (r : Request) (wanted : Option String) (arrival : ServiceState)
    (turns : List (Turn ServiceState)) (last : ServiceState) (own : Reply) : Prop
  | refused {cause : Rejection} (refusal : IsRefusal s (some (orderMatch wanted)) r cause own)
      (unchanging : Unchanging (steps arrival turns last))
  | answered {caller : Principal} {found : ServiceState} (vouched : Vouched s.gate r .anyone turns caller)
      (turning : Turning (steps arrival turns last) found found)
      (answered : (found.orders.records.map (·.id)).Nodup →
        Answered r caller.username found.orders.records own wanted)

section Way

variable {s : Service} {r : Request} {wanted : Option String} {arrival last : ServiceState}
  {turns : List (Turn ServiceState)} {own : Reply}

theorem unchanging_here {σ : Type} (u : σ) : Unchanging (steps u [] u) := by
  intro p member
  rw [List.mem_singleton.1 member]

/-- **Every request for orders ends so.** -/
theorem reading_of_ending (asks : r.AsksFor wanted)
    (ending : Ending s (some (orderMatch wanted)) r arrival turns last own)
    (real : ∀ t ∈ turns, Real t.question t.answer) (deliverable : r.Deliverable) :
    Reading s r wanted arrival turns last own := by
  have gets := asks.gets
  have anyone : required (some (orderMatch wanted)) = .anyone := by cases wanted <;> rfl
  cases ending with
  | refused refusal unchanging uncalled => exact .refused refusal unchanging
  | @handled caller ruling front ran back u v result parts vouched known token numbered id_fine entry uncalled path
      sent =>
    rw [anyone] at vouched
    have liberal := liberal_idle (σ := ServiceState) fun _ _ => True
    obtain ⟨exit, -⟩ := depart_idle sent
    have real_part : ∀ t ∈ ran ++ back, Real t.question t.answer := fun t member => real t (by
      rw [parts]
      exact List.mem_append_right _ member)
    have real_ran : ∀ t ∈ ran, Real t.question t.answer := fun t member => real_part t (List.mem_append_left _ member)
    have real_back : ∀ t ∈ back, Real t.question t.answer :=
      fun t member => real_part t (List.mem_append_right _ member)
    have vouched_whole : Vouched s.gate r .anyone turns caller :=
      vouched.mono ⟨[], ran ++ back, by rw [parts, List.nil_append]⟩
    -- What is told is all that is left to show: the way of the handler stands still in any case.
    suffices told : Unchanging (steps u ran v) ∧ ((u.orders.records.map (·.id)).Nodup →
        Answered r caller.username u.orders.records own wanted) by
      refine .answered vouched_whole ?_ told.2
      rw [parts]
      exact turning_append entry (unchanging_append told.1 exit)
    rcases handled_cases path with ⟨f, faulty, -⟩ | ⟨body, answer, read, way, rfl⟩
    · rw [readBody_of_gets gets] at faulty
      cases faulty
    have known_here : (inboundOf (orderMatch wanted) r ruling.context body).principalOf = .ok caller := known _ rfl
    cases wanted with
    | none =>
      have handled : (listOrdersHandler s (inboundOf (orderMatch none) r ruling.context body)).run u = _ :=
        listOrdersHandler_run known_here
      have listed : ((listOrdersHandler s (inboundOf (orderMatch none) r ruling.context body)).run u).Reaches ran
          (.done v answer) := way
      rw [handled] at listed
      obtain ⟨rfl, rfl, rfl⟩ := eq_of_reaches_done listed
      exact ⟨unchanging_here u, fun _ => told_of_answered gets deliverable id_fine (by decide) sent⟩
    | some spelling =>
      have looked : ((getOrderHandler s (inboundOf (orderMatch (some spelling)) r ruling.context body)).run u).Reaches
          ran (.done v answer) := way
      cases checked : idParameter (inboundOf (orderMatch (some spelling)) r ruling.context body) with
      | faulty first others =>
        have invalid : getOrderHandler s (inboundOf (orderMatch (some spelling)) r ruling.context body) =
            invalidAnswer (inboundOf (orderMatch (some spelling)) r ruling.context body) "Invalid order id"
              (first :: others) := by
          rw [getOrderHandler, checked]
        rw [invalid] at looked
        obtain ⟨now, report, made, rfl⟩ := ((within_invalidAnswer_real _ _ _ u).of_reaches looked real_ran).2
        obtain ⟨still, -, -⟩ := idle_path (within_invalidAnswer liberal _ _ _) looked
        obtain ⟨status, text⟩ := told_of_answered gets deliverable id_fine (by decide) sent
        have unspelled : ∀ id, ¬Spells spelling id := by
          intro id spelled
          have fine := idParameter_of_spells (i := inboundOf (orderMatch (some spelling)) r ruling.context body) spelled
          rw [checked] at fine
          cases fine
        exact ⟨still, fun _ => ⟨fun id spelled => absurd spelled (unspelled id),
          fun id spelled => absurd spelled (unspelled id), fun id spelled => absurd spelled (unspelled id),
          fun _ => ⟨_, now, report, made, status, fun _ => text⟩⟩⟩
      | fine n =>
        obtain ⟨id, spelled⟩ := spells_of_idParameter checked
        obtain rfl := (counts_of_bounded checked).1
        rw [getOrderHandler_run known_here checked spelled.1] at looked
        obtain ⟨rfl, rfl, rfl⟩ := eq_of_reaches_done looked
        refine ⟨unchanging_here u, fun distinct => told_of_find? distinct spelled ?missing ?record ?forbidden⟩
        case missing =>
          intro absent
          rw [absent] at sent
          refine tells_of_fault deliverable id_fine rfl ?_ real_back sent
          change 404 ≠ noContent
          decide
        case record =>
          intro o found of_caller
          rw [found, orderResult, if_pos of_caller] at sent
          exact told_of_answered gets deliverable id_fine (by decide) sent
        case forbidden =>
          intro o found of_other
          rw [found, orderResult, if_neg (by rw [of_other]; decide)] at sent
          exact tells_of_fault deliverable id_fine rfl (by decide) real_back sent

/-- A request for orders changes nothing. -/
theorem Reading.unchanging (reading : Reading s r wanted arrival turns last own) :
    Unchanging (steps arrival turns last) := by
  cases reading with
  | refused refusal unchanging => exact unchanging
  | answered vouched turning answered => exact unchanging_of_turning turning

end Way

/-! ### In a run -/

/-- **A caller reads orders** at one move of a run: those that the moves before it have created, counted from 1 on. -/
inductive Reads (s : Service) (v : Visit) (n : Nat) (ms : List Move) (wanted : Option String) (own : Reply)
    (caller : Principal) : (orders : List Order) → Prop
  | intro {earlier later : List Move} {move : Move} (vouched : Vouched s.gate v.request .anyone v.turns caller)
      (run : ms = earlier ++ move :: later) (by_it : move.visit = n)
      (counted : (created earlier).map (·.id) = List.range' 1 (created earlier).length)
      (answered : Answered v.request caller.username (created earlier) own wanted) :
    Reads s v n ms wanted own caller (created earlier)

namespace Site

variable {s : Service} {stores : ServiceState} {events : List Event} {n : Nat} {v : Visit} {wanted : Option String}
  {st : ServiceState} {reply : Option Reply}

/-- **A request for orders in a run** changes nothing; it is turned away by the gate, or reads orders. -/
theorem reads (fresh : stores.orders = {}) (real : ∀ e ∈ events, e.Gives Real)
    (there : (after s ServiceName.orderService.endpoints { state := stores } events).visits[n]? = some v)
    (asks : v.request.AsksFor wanted) (deliverable : v.request.Deliverable) (ended : v.standing = .done st reply) :
    (∀ move ∈ movesOf n (moves s ServiceName.orderService.endpoints { state := stores } events),
      move.after = move.before) ∧
    ∃ own, reply = some own ∧
      ((∃ cause, IsRefusal s (some (orderMatch wanted)) v.request cause own) ∨
        ∃ caller orders,
          Reads s v n (moves s ServiceName.orderService.endpoints { state := stores } events) wanted own caller orders) := by
  obtain ⟨travels, heard, taken⟩ := visit_of_after real there
  have plain : v.request.method ≠ "OPTIONS" := by
    rw [asks.gets]
    decide
  have access : accessOf (some (orderMatch wanted)) = .needs (required (some (orderMatch wanted))) := by
    cases wanted <;> rfl
  obtain ⟨own, rfl, ending⟩ := Visit.ending travels (routed_of_asksFor asks) plain access ended heard deliverable
  have reading := reading_of_ending asks ending heard deliverable
  have own_steps : steps v.arrival v.turns st =
      (movesOf n (moves s ServiceName.orderService.endpoints { state := stores } events)).map Move.step := by
    rw [← taken, Visit.steps, ended]
    rfl
  refine ⟨?_, own, rfl, ?_⟩
  · have still := reading.unchanging
    rw [own_steps] at still
    exact unchanging_moves_iff.1 still
  · cases reading with
    | refused refusal unchanging => exact .inl ⟨_, refusal⟩
    | @answered caller found vouched turning answered =>
      obtain ⟨front, back, split_up, -, -⟩ := turning
      rw [own_steps] at split_up
      obtain ⟨earlier, move, later, run, by_it, step, -, -⟩ := exists_move split_up
      obtain ⟨rfl, -⟩ := Prod.ext_iff.1 step
      obtain ⟨others, counted⟩ := orders_before fresh real run
      have ids : (created earlier).map (·.id) = List.range' 1 (created earlier).length := by
        rw [← others]
        exact counted.ids
      have distinct : ((created earlier).map (·.id)).Nodup := by
        rw [ids]
        exact List.nodup_range' 
      refine .inr ⟨caller, _, .intro vouched run by_it ids ?_⟩
      dsimp only [Move.step] at answered
      rw [others] at answered
      exact answered distinct

end Site

/-! ### Isolation -/

/-- **Two texts list the same orders up to their ids.** -/
def SameUpToIds (text text' : String) : Prop :=
  ∃ orders orders' : List Order, text = (Json.array (orders.map Order.toJson)).render ∧
    text' = (Json.array (orders'.map Order.toJson)).render ∧ orders.map (·.value) = orders'.map (·.value)

/-- **Callers who have the same orders up to ids read the same up to ids,** in whatever runs they do. -/
theorem Reads.sameUpToIds {s s' : Service} {v v' : Visit} {n n' : Nat} {ms ms' : List Move} {own own' : Reply}
    {caller caller' : Principal} {orders orders' : List Order} (reads : Reads s v n ms none own caller orders)
    (reads' : Reads s' v' n' ms' none own' caller' orders')
    (same : (ordersOf caller.username orders).map (·.value) = (ordersOf caller'.username orders').map (·.value)) :
    SameUpToIds own.text own'.text := by
  cases reads with
  | intro _ _ _ _ answered =>
    cases reads' with
    | intro _ _ _ _ answered' => exact ⟨_, _, answered.2, answered'.2, same⟩

namespace SmallShop

/-- A request of the user for what is under a target. -/
def read (target : String) : Request where
  method := "GET"
  target
  headers := [("authorization", "Bearer " ++ pass)]
  body := none

theorem deliverable_read (target : String) : (read target).Deliverable := by
  have all : (read target).headers.all isReplyHeader = true := by
    change [("authorization", "Bearer " ++ pass)].all isReplyHeader = true
    cbv
  exact List.all_eq_true.1 all

theorem bearerToken?_read (target : String) : bearerToken? ((read target).header? "authorization") = some pass := by
  change bearerToken? (some ("Bearer " ++ pass)) = some pass
  exact bearerToken?_pass

/-- What the user asks the shop for is played from where the gate lets it in. -/
theorem played_read {target : String} {m : Option Match}
    (routed : routed? ServiceName.orderService.endpoints (read target) = some m) (access : accessOf m = .needs .anyone)
    (st : ServiceState) :
    (respond shop ServiceName.orderService.endpoints (read target) st).played (answers naming) =
      ((some <$> letIn shop m (read target) (admission (answers naming) shop.gate (read target) (passToken pass passExpiry))
        ((passToken pass passExpiry).claims.principal "roles") : Task _ _) st).played (answers naming) :=
  played_passToken naming written_pass (accepted_pass _ _) routed (show "GET" ≠ "OPTIONS" by decide) access (bearerToken?_read target) st

/-- The caller with that pass is the user `s`. -/
theorem username_of_vouched {target : String} {turns : List (Turn ServiceState)} {caller : Principal}
    (vouched : Vouched shop.gate (read target) .anyone turns caller) : caller.username = "s" := by
  have named : ((passToken pass passExpiry).claims.principal shop.gate.rolesSetting).username = "s" := by decide +kernel
  cases vouched with
  | @intro raw _ t _ _ _ _ _ _ own written answered accepted allowed =>
    obtain rfl : pass = raw := Option.some.inj ((bearerToken?_read target).symm.trans own)
    obtain rfl : passToken pass passExpiry = t :=
      Except.ok.inj ((Token.ofText_eq_ok_iff.2 written_pass).symm.trans (Token.ofText_eq_ok_iff.2 written))
    exact named

/-- **A run of the shop** in which the user places the order and after that asks for what is under a target. -/
structure Day (target : String) (first more : List Site.Event) (ordered asked : Visit) : Prop where
  given : ∀ e ∈ first ++ more, Site.Event.Gives (fun q a => answers naming q = a) e
  ordering : (Site.after shop ServiceName.orderService.endpoints { state := {} } first).visits = [ordered]
  order : ordered.request = order
  placed : ∃ st, ordered.standing =
    .done st ((respond shop ServiceName.orderService.endpoints SmallShop.order {}).played (answers naming)).2
  reading : (Site.after shop ServiceName.orderService.endpoints { state := {} } (first ++ more)).visits[1]? = some asked
  request : asked.request = read target
  arrival : asked.arrival.orders.records.map (fun o => (o.id, Order.isOf "s" o)) = [(1, true)]
  ended : ∃ st, asked.standing = .done st ((respond shop ServiceName.orderService.endpoints (read target)
    ((respond shop ServiceName.orderService.endpoints SmallShop.order {}).played (answers naming)).1).played
      (answers naming)).2

/-- There is such a run for every target. -/
theorem exists_day (target : String) : ∃ first more ordered asked, Day target first more ordered asked := by
  obtain ⟨first, more, ordered, asked, given, ordering, order_eq, placed, visits, request, arrival, ended⟩ :=
    Site.exists_servingTwo shop ServiceName.orderService.endpoints {} order (read target) (answers naming)
  exact ⟨first, more, ordered, asked, given, ordering, order_eq, placed, by rw [visits]; rfl, request,
    by rw [arrival]; exact placed_order.2, ended⟩

/-- There the user is shown the list. -/
theorem listed_order : ((respond shop ServiceName.orderService.endpoints (read "/api/orders")
    ((respond shop ServiceName.orderService.endpoints order {}).played (answers naming)).1).played
      (answers naming)).2.map Reply.status = some 200 := by
  have routed : routed? ServiceName.orderService.endpoints (read "/api/orders") = some (some ⟨.listOrders, []⟩) := by
    decide +kernel
  rewrite [played_read routed rfl]
  decide +kernel

/-- That is a request for all orders. -/
theorem asksFor_read : (read "/api/orders").AsksFor none := by
  have path : Target.segments? "/api/orders" =
      some (some ["api".toList.map (⟨·, false⟩), "orders".toList.map (⟨·, false⟩)]) := by decide +kernel
  exact .all rfl path (by decide +kernel) (by decide +kernel)

end SmallShop

namespace Site

/-- **Callers read orders of their own only,** all of them in the order of their creation, or one by any spelling of
its id that is not too long; reading changes nothing.  Runs that differ in the orders of others give a caller the same
list up to ids. -/
theorem orders_isolated (s : Service) {stores : ServiceState} (fresh : stores.orders = {}) {events : List Event}
    (real : ∀ e ∈ events, e.Gives Real) {n : Nat} {v : Visit} {wanted : Option String} {st : ServiceState}
    {reply : Option Reply}
    (there : (after s ServiceName.orderService.endpoints { state := stores } events).visits[n]? = some v)
    (asks : v.request.AsksFor wanted) (deliverable : v.request.Deliverable) (ended : v.standing = .done st reply) :
    (∀ move ∈ movesOf n (moves s ServiceName.orderService.endpoints { state := stores } events),
      move.after = move.before) ∧
    ∃ own, reply = some own ∧
      ((∃ cause, IsRefusal s (some (orderMatch wanted)) v.request cause own) ∨
        ∃ caller orders,
          Reads s v n (moves s ServiceName.orderService.endpoints { state := stores } events) wanted own caller orders ∧
          (∀ o ∈ ordersOf caller.username orders, Order.owner o = some (.string caller.username)) ∧
          ∀ {s' v' n' ms' own' caller' orders'}, wanted = none → Reads s' v' n' ms' none own' caller' orders' →
            caller'.username = caller.username →
            (ordersOf caller.username orders).map (·.value) = (ordersOf caller.username orders').map (·.value) →
            SameUpToIds own.text own'.text) := by
  obtain ⟨still, own, rfl, refused | ⟨caller, orders, reading⟩⟩ := reads fresh real there asks deliverable ended
  · exact ⟨still, own, rfl, .inl refused⟩
  · refine ⟨still, own, rfl, .inr ⟨caller, orders, reading, fun o member => ?_, ?_⟩⟩
    · exact isOf_iff.1 (List.mem_filter.1 member).2
    · rintro s' v' n' ms' own' caller' orders' rfl reading' named same
      refine reading.sameUpToIds reading' ?_
      rw [named]
      exact same

/-- In the small shop the user reads the list of orders. -/
theorem orders_isolated_small_shop : ∃ events v own caller orders,
    (∀ e ∈ events, Event.Gives Real e) ∧
    (after SmallShop.shop ServiceName.orderService.endpoints { state := {} } events).visits[1]? = some v ∧
    v.request = SmallShop.read "/api/orders" ∧ own.status = 200 ∧ caller.username = "s" ∧
    Reads SmallShop.shop v 1 (moves SmallShop.shop ServiceName.orderService.endpoints { state := {} } events) none own
      caller orders := by
  obtain ⟨first, more, ordered, v, day⟩ := SmallShop.exists_day "/api/orders"
  obtain ⟨st, ended⟩ := day.ended
  obtain ⟨own, replied, status⟩ := Option.map_eq_some_iff.1 SmallShop.listed_order
  rw [replied] at ended
  have real := SmallShop.real_of_gives day.given
  obtain ⟨-, own', same, told⟩ := orders_isolated SmallShop.shop (show ({} : ServiceState).orders = {} from rfl) real day.reading
    (by rw [day.request]; exact SmallShop.asksFor_read) (by rw [day.request]; exact SmallShop.deliverable_read _) ended
  obtain rfl : own = own' := Option.some.inj same
  rcases told with ⟨cause, refusal⟩ | ⟨caller, orders, reading, -, -⟩
  · obtain ⟨id, now, -, other⟩ := refusal
    have listed := cause.reason.status_mem
    rw [← other, status] at listed
    exact absurd listed (by decide)
  · have named : caller.username = "s" := by
      cases reading with
      | intro vouched _ _ _ _ =>
        rw [day.request] at vouched
        exact SmallShop.username_of_vouched vouched
    exact ⟨_, v, own, caller, orders, real, day.reading, day.request, status, named, reading⟩

/-- The id 1, spelled with a hundred zeros before it. -/
def longSpelling : String := String.ofList (List.replicate 100 '0' ++ ['1'])

/-- **An order is missed under a spelling of its id that is too long,** also by its owner: no route is there for it. -/
theorem order_missed_under_longSpelling : ∃ events v own caller o api orders id,
    (∀ e ∈ events, Event.Gives Real e) ∧
    (after SmallShop.shop ServiceName.orderService.endpoints { state := {} } events).visits[1]? = some v ∧
    v.request = SmallShop.read ("/api/orders/" ++ longSpelling) ∧
    Target.segments? v.request.target = some (some [api, orders, id]) ∧ Target.isLiteral "api" api = true ∧
    Target.isLiteral "orders" orders = true ∧ Spells (Target.segmentText id) 1 ∧
    Vouched SmallShop.shop.gate v.request .anyone v.turns caller ∧
    o ∈ v.arrival.orders.records ∧ o.id = 1 ∧ Order.isOf caller.username o = true ∧
    (∃ st, v.standing = .done st (some own)) ∧ own.status = 404 := by
  obtain ⟨first, more, ordered, v, day⟩ := SmallShop.exists_day ("/api/orders/" ++ longSpelling)
  obtain ⟨st, ended⟩ := day.ended
  have routed : routed? ServiceName.orderService.endpoints (SmallShop.read ("/api/orders/" ++ longSpelling)) =
      some none := by decide +kernel
  have evaluated : ((respond SmallShop.shop ServiceName.orderService.endpoints
      (SmallShop.read ("/api/orders/" ++ longSpelling))
      ((respond SmallShop.shop ServiceName.orderService.endpoints SmallShop.order {}).played
        (SmallShop.answers SmallShop.naming)).1).played (SmallShop.answers SmallShop.naming)).2.map Reply.status =
      some 404 := by
    rewrite [SmallShop.played_read routed rfl]
    decide +kernel
  obtain ⟨own, replied, status⟩ := Option.map_eq_some_iff.1 evaluated
  rw [replied] at ended
  have real := SmallShop.real_of_gives day.given
  have there := day.reading
  have request := day.request
  obtain ⟨travels, heard, -⟩ := visit_of_after real there
  rw [← request] at routed
  obtain ⟨own', same, ending⟩ := Visit.ending travels routed (by rw [request]; decide) rfl ended
    heard (by rw [request]; exact SmallShop.deliverable_read _)
  obtain rfl : own = own' := Option.some.inj same
  cases ending with
  | @refused cause refusal unchanging uncalled =>
    obtain ⟨id, now, -, other⟩ := refusal
    have listed := cause.reason.status_mem
    rw [← other, status] at listed
    exact absurd listed (by decide)
  | @handled caller ruling front ran back u w result parts vouched known token numbered id_fine entry uncalled path
      sent =>
    have vouched_whole : Vouched SmallShop.shop.gate v.request .anyone v.turns caller :=
      vouched.mono ⟨[], ran ++ back, by rw [parts, List.nil_append]⟩
    have named : caller.username = "s" := by
      have held := vouched_whole
      rw [request] at held
      exact SmallShop.username_of_vouched held
    obtain ⟨o, member, same⟩ : ∃ o ∈ v.arrival.orders.records, (o.id, Order.isOf "s" o) = (1, true) := by
      have listed : (1, true) ∈ v.arrival.orders.records.map fun o => (o.id, Order.isOf "s" o) := by
        rw [day.arrival]
        exact List.mem_singleton_self _
      exact List.mem_map.1 listed
    obtain ⟨first, of_caller⟩ := Prod.ext_iff.1 same
    have path : Target.segments? ("/api/orders/" ++ longSpelling) = some (some ["api".toList.map (⟨·, false⟩),
        "orders".toList.map (⟨·, false⟩), longSpelling.toList.map (⟨·, false⟩)]) := by decide +kernel
    have spelled : Spells (Target.segmentText (longSpelling.toList.map (⟨·, false⟩))) 1 :=
      ⟨by decide +kernel, by decide⟩
    exact ⟨_, v, own, caller, o, _, _, _, real, there, request, by rw [request]; exact path, by decide +kernel,
      by decide +kernel, spelled, vouched_whole, member, first, by rw [named]; exact of_caller, ⟨st, ended⟩, status⟩

end Site

end BearerGate
