import BearerGate.Proofs.Number.Order
import BearerGate.Proofs.Schema.Checked
import BearerGate.Proofs.Service.Ending
import BearerGate.Service.Routes.Orders

/-!
# Placing an order

The handler that places orders, cut in two.  `settle` makes up its mind: it asks the user service for the caller's
name and then the product service for the product, and comes to an order and a time, or to a fault; it changes
nothing (`settling_of_path`).  `enter` puts the order among the others, in one step (`enter_ends`).

`CallEnd.Gives` says of the end of a call that it gives data of some shape: a reply of success whose body can be
read and has that shape.  `Settling` lists how `settle` ends, with the calls that it has made.
-/

namespace BearerGate

open Number

/-! ### What a call gives -/

/-- **A call gives data** of a shape. -/
def CallEnd.Gives {α : Type} (e : CallEnd) (shape : Json → Option α) (data : α) : Prop :=
  ∃ reply body, e.reply = some reply ∧ readBody? reply = some body ∧ isSuccess reply.status = true ∧
    shape body = some data

/-- **A call is answered that there is nothing there,** in a reply whose body can be read. -/
def CallEnd.Missing (e : CallEnd) : Prop :=
  ∃ reply body, e.reply = some reply ∧ readBody? reply = some body ∧ reply.status = 404

section Fetching

variable {s : Service} {context : RequestContext} {st st' : ServiceState} {turns : List (Turn ServiceState)}

/-- A call on behalf of a context that has been prepared. -/
def Prepared (s : Service) (context : RequestContext) (r : ServiceRequest) (call : OutboundCall) : Prop :=
  ∃ log, prepareCall s.registry context r = .ok (call, log)

/-- **What a fetch makes of a call that has ended:** its data, or a fault under the status of the reply. -/
inductive Fetched {α : Type} (shape : Json → Option α) (e : CallEnd) : Except Fault α → Prop
  | data {a : α} (gives : e.Gives shape a) : Fetched shape e (.ok a)
  | failure {cause : DownstreamError} (nothing : ∀ a, ¬e.Gives shape a)
      (missing : cause.status = some 404 ↔ e.Missing) : Fetched shape e (.error (.downstream cause))

/-- Concluding a call and expecting a shape. -/
theorem fetched_of_concluded {α : Type} {shape : Json → Option α} (limit : Number) (r : ServiceRequest)
    (call : OutboundCall) {e : CallEnd} {result : Except Fault α}
    (same : result = ((concludeCall limit r call e).result.mapError .downstream).bind fun response =>
      (expectShape r.service shape response).mapError .downstream) : Fetched shape e result := by
  subst same
  unfold concludeCall
  cases read : e.reply.bind fun reply => (readBody? reply).map (reply, ·) with
  | none =>
    -- There is no reply that can be read, so there are no data and nothing is missing either.
    have unread : ∀ reply body, e.reply = some reply → readBody? reply = some body → False := by
      intro reply body there parsed
      rw [there, Option.bind_some, parsed] at read
      cases read
    refine .failure ?_ ⟨(fun gone => by cases gone), ?_⟩
    · rintro a ⟨reply, body, there, parsed, -⟩
      exact unread reply body there parsed
    · rintro ⟨reply, body, there, parsed, -⟩
      exact (unread reply body there parsed).elim
  | some both =>
    obtain ⟨reply, there, mapped⟩ := Option.bind_eq_some_iff.1 read
    obtain ⟨body, parsed, rfl⟩ := Option.map_eq_some_iff.1 mapped
    have only : ∀ reply' body', e.reply = some reply' → readBody? reply' = some body' →
        reply' = reply ∧ body' = body := by
      intro reply' body' there' parsed'
      rw [there] at there'
      cases there'
      rw [parsed] at parsed'
      cases parsed'
      exact ⟨rfl, rfl⟩
    dsimp only [Except.mapError, Except.bind, expectShape]
    by_cases success : isSuccess reply.status = true
    · have other : reply.status ≠ 404 := by
        intro gone
        rw [gone] at success
        cases success
      rw [if_pos success]
      cases shaped : shape body with
      | some data => exact .data ⟨reply, body, there, parsed, success, shaped⟩
      | none =>
        refine .failure ?_ ?_
        · rintro a ⟨reply', body', there', parsed', -, shaped'⟩
          obtain ⟨rfl, rfl⟩ := only reply' body' there' parsed'
          rw [shaped] at shaped'
          cases shaped'
        · constructor
          · intro gone
            exact absurd (Option.some.inj gone) other
          · rintro ⟨reply', body', there', parsed', gone⟩
            obtain ⟨rfl, rfl⟩ := only reply' body' there' parsed'
            exact absurd gone other
    · rw [if_neg success]
      refine .failure ?_ ?_
      · rintro a ⟨reply', body', there', parsed', success', -⟩
        obtain ⟨rfl, rfl⟩ := only reply' body' there' parsed'
        exact absurd success' success
      · constructor
        · intro gone
          exact ⟨reply, body, there, parsed, Option.some.inj gone⟩
        · rintro ⟨reply', body', there', parsed', gone⟩
          obtain ⟨rfl, rfl⟩ := only reply' body' there' parsed'
          exact congrArg some gone

/-- **A fetch is a call,** whose answer is then held against the shape. -/
theorem callService_of_fetchResource {α : Type} {shape : Json → Option α} {service path : String}
    {result : Except Fault α}
    (way : ((fetchResource s context service path shape).run st).Reaches turns (.done st' result)) :
    ∃ u answered, ((callService s context { service, path }).run st).Reaches turns (.done u answered) ∧
      result = answered.bind fun response => (expectShape service shape response).mapError .downstream := by
  unfold fetchResource at way
  rw [ExceptT.run_bind] at way
  obtain ⟨called, rest, u, answered, before, after, turns_eq, -⟩ := callsOf_bind way
  -- After the call nothing is asked, so all turns are those of the first part.
  have settled : rest = [] ∧ result = answered.bind fun response =>
      (expectShape service shape response).mapError .downstream := by
    cases answered with
    | error fault =>
      obtain ⟨rfl, rfl⟩ := eq_of_reaches_pure after
      exact ⟨rfl, rfl⟩
    | ok response =>
      dsimp only at after
      cases shaped : expectShape service shape response with
      | ok data =>
        rw [shaped] at after
        obtain ⟨rfl, rfl⟩ := eq_of_reaches_pure after
        exact ⟨rfl, by rw [Except.bind, shaped]; rfl⟩
      | error cause =>
        rw [shaped] at after
        obtain ⟨rfl, rfl⟩ := eq_of_reaches_pure after
        exact ⟨rfl, by rw [Except.bind, shaped]; rfl⟩
  obtain ⟨quiet, result_eq⟩ := settled
  rw [quiet, List.append_nil] at turns_eq
  rw [turns_eq]
  exact ⟨u, answered, before, result_eq⟩

/-- **How a fetch ends:** without any call if it could not be prepared, and otherwise after exactly one. -/
theorem fetchResource_ends {α : Type} {shape : Json → Option α} {service path : String} {result : Except Fault α}
    (way : ((fetchResource s context service path shape).run st).Reaches turns (.done st' result)) :
    (∃ fault, prepareCall s.registry context { service, path } = .error fault ∧ callsOf turns = [] ∧
      result = .error fault.fault) ∨
    ∃ call ending, Prepared s context { service, path } call ∧ callsOf turns = [(call, ending)] ∧
      Fetched shape ending result := by
  obtain ⟨u, answered, called, result_eq⟩ := callService_of_fetchResource way
  rcases callService_ends called with ⟨fault, failed, uncalled, rfl⟩ | ⟨call, log, ending, prepared, made, came⟩
  · exact .inl ⟨fault, failed, uncalled, result_eq⟩
  · refine .inr ⟨call, ending, ⟨log, prepared⟩, made,
      fetched_of_concluded s.config.downstreamTimeoutMs { service, path } call ?_⟩
    rw [result_eq, came]

end Fetching

/-! ### What is ordered -/

/-- **A whole number above zero.** -/
def Number.Counts (n : Number) : Prop := n.isInteger = true ∧ 0 < n

theorem counts_of_bounded {path : List PathStep} {n m : Number}
    (fine : Checked.bounded path [.whole, .positive] n = .fine m) : m = n ∧ n.Counts := by
  obtain ⟨same, -, fault_free⟩ := eq_of_bounded_eq_fine fine
  have whole := fault_free .whole (by simp)
  have positive := fault_free .positive (by simp)
  simp only [Checked.NumberBound.issue?, ite_eq_left_iff, reduceCtorEq, imp_false, Bool.not_eq_true,
    Bool.not_eq_false, not_not] at whole positive
  exact ⟨same, whole, positive⟩

theorem Number.Counts.ne_nan {n : Number} (counts : n.Counts) : n ≠ .nan := ne_nan_of_lt counts.2

theorem counts_of_number {path : List PathStep} {j : Option Json} {n : Number}
    (fine : Checked.number path [.whole, .positive] j = .fine n) : n.Counts := by
  unfold Checked.number at fine
  split at fine
  · obtain ⟨rfl, counts⟩ := counts_of_bounded fine
    exact counts
  · cases fine

/-- **What is asked for in an order** are whole numbers above zero. -/
theorem counts_of_ofBody {body : Json} {r : OrderRequest} (fine : OrderRequest.ofBody body = .fine r) :
    r.productId.Counts ∧ r.quantity.Counts := by
  unfold OrderRequest.ofBody at fine
  split at fine
  · obtain ⟨productId, quantity, first, second, rfl⟩ := fine_of_map_seq fine
    exact ⟨counts_of_number first, counts_of_number second⟩
  · cases fine

/-- No decimal is read as something that is no number. -/
theorem ofDecimal_ne_nan (negative : Bool) (digits : Nat) (exponent : Int) :
    ofDecimal negative digits exponent ≠ .nan := by
  have exact : ofExactDecimal negative digits exponent ≠ .nan := by
    unfold ofExactDecimal
    split <;> exact ofQuotient_ne_nan _ _ _
  unfold ofDecimal
  dsimp only
  split
  · simp
  · split
    · simp
    · split
      · simp
      · exact exact

/-- **The numbers in a reply are numbers.** -/
theorem ne_nan_of_readBody? {reply : TransportReply} {body : Json} (read : readBody? reply = some body)
    {name : String} {n : Number} (there : (body.member? name).bind Json.number? = some n) : n ≠ .nan := by
  unfold readBody? at read
  dsimp only at read
  obtain ⟨j, found, number⟩ := Option.bind_eq_some_iff.1 there
  split at read
  · cases read
    cases found
  · split at read
    · have formed : Json.Formed (fun n => n ≠ .nan) body := Json.formed_of_parseChars? ofDecimal_ne_nan read
      cases formed with
      | object ordered each =>
        obtain ⟨⟨key, value⟩, here, rfl⟩ := Option.map_eq_some_iff.1 found
        have member : Json.Formed _ value := each _ (List.mem_of_find?_eq_some here)
        cases member with
        | number fits =>
          cases number
          exact fits
        | _ => cases number
      | _ => cases found
    · cases read
      cases found

/-- The stock in an offer is a number. -/
theorem stock_ne_nan {e : CallEnd} {offer : ProductOffer} (gives : e.Gives ProductOffer.ofJson offer) :
    offer.stock ≠ .nan := by
  obtain ⟨reply, body, -, read, -, shaped⟩ := gives
  obtain ⟨id, -, shaped⟩ := Option.bind_eq_some_iff.1 shaped
  obtain ⟨name, -, shaped⟩ := Option.bind_eq_some_iff.1 shaped
  obtain ⟨price, -, shaped⟩ := Option.bind_eq_some_iff.1 shaped
  obtain ⟨stock, there, shaped⟩ := Option.bind_eq_some_iff.1 shaped
  cases shaped
  exact ne_nan_of_readBody? read there

/-- The order that is placed for a caller, if the stock suffices. -/
def orderFor (username : String) (r : OrderRequest) (offer : ProductOffer) : OrderInput where
  username
  productId := offer.id
  productName := offer.name
  productPrice := offer.price
  quantity := r.quantity
  totalPrice := (offer.price * r.quantity).roundToHundredths

/-! ### Making up one's mind -/

/-- What is asked of the user service. -/
def userRequest : ServiceRequest := { service := "user-service", path := "/api/users/me" }

/-- What is asked of the product service. -/
def productRequest (productId : Number) : ServiceRequest where
  service := "product-service"
  path := "/api/products/" ++ productId.render

/-- The status that goes with a call that was never made. -/
def CallFault.status : CallFault → Nat
  | unknownService _ => 502
  | unbuildable => 500

/-- **The name that the user service has for a caller,** and the call that has brought it. -/
structure Named (s : Service) (context : RequestContext) (made : OutboundCall × CallEnd) (name : String) : Prop where
  prepared : Prepared s context userRequest made.1
  gives : made.2.Gives userShape name

/-- **What comes of an order that is asked for:** the calls that are made, the status that it ends with, and the
order that is to be placed. -/
inductive Settling (s : Service) (context : RequestContext) (r : OrderRequest) :
    List (OutboundCall × CallEnd) → (status : Nat) → Option OrderInput → Prop
  /-- There is no call that could be made. -/
  | uncalled {fault : CallFault} (failed : prepareCall s.registry context userRequest = .error fault) :
    Settling s context r [] fault.status none
  | nameless {user : OutboundCall × CallEnd} (prepared : Prepared s context userRequest user.1)
      (nothing : ∀ name, ¬user.2.Gives userShape name) : Settling s context r [user] 502 none
  | unasked {user : OutboundCall × CallEnd} {name : String} {fault : CallFault} (named : Named s context user name)
      (failed : prepareCall s.registry context (productRequest r.productId) = .error fault) :
    Settling s context r [user] fault.status none
  /-- There is no such product. -/
  | gone {user product : OutboundCall × CallEnd} {name : String} (named : Named s context user name)
      (prepared : Prepared s context (productRequest r.productId) product.1) (missing : product.2.Missing) :
    Settling s context r [user, product] 404 none
  | offerless {user product : OutboundCall × CallEnd} {name : String} (named : Named s context user name)
      (prepared : Prepared s context (productRequest r.productId) product.1)
      (nothing : ∀ offer, ¬product.2.Gives ProductOffer.ofJson offer) (there : ¬product.2.Missing) :
    Settling s context r [user, product] 502 none
  /-- There is not enough in stock. -/
  | short {user product : OutboundCall × CallEnd} {name : String} {offer : ProductOffer}
      (named : Named s context user name)
      (prepared : Prepared s context (productRequest r.productId) product.1)
      (gives : product.2.Gives ProductOffer.ofJson offer) (less : offer.stock < r.quantity) :
    Settling s context r [user, product] 409 none
  | settled {user product : OutboundCall × CallEnd} {name : String} {offer : ProductOffer}
      (named : Named s context user name)
      (prepared : Prepared s context (productRequest r.productId) product.1)
      (gives : product.2.Gives ProductOffer.ofJson offer) (enough : r.quantity ≤ offer.stock) :
    Settling s context r [user, product] 201 (some (orderFor name r offer))

/-- **Making up one's mind about an order:** what is to be placed, and when. -/
def settle (s : Service) (context : RequestContext) (r : OrderRequest) :
    Handling ServiceState (OrderInput × Number) := do
  let username ← fetchResource s context "user-service" "/api/users/me" userShape
  let offer ← fetchOffer s context r.productId
  match placeOrder username r offer with
  | .error e => Handling.fail (.http e)
  | .ok input => do
    let now ← Handling.ofTask Task.time
    pure (input, now)

/-- **Placing what is settled.** -/
def enter (r : OrderRequest) (what : OrderInput × Number) : Handling ServiceState Answer := do
  let placed ← Handling.ofTask (Task.modifyGet fun s =>
    let (orders, placed) := s.orders.place what.1.members what.2
    ({ s with orders }, placed))
  match placed with
  | none => Handling.fail (.crash Instant.invalidMessage)
  | some order =>
    Handling.log (.make .info "Order created"
      [("orderId", some (.nat order.id)), ("username", some (.string what.1.username)),
        ("productId", some (.number r.productId))])
    pure (.ofStatus 201 (Order.toJson order))

/-- **The handler** settles what a body asks for, and places it. -/
theorem createOrderHandler_eq {s : Service} {i : Inbound} {r : OrderRequest}
    (fine : OrderRequest.ofBody i.bodyObject = .fine r) :
    createOrderHandler s i = settle s i.context r >>= enter r := by
  simp only [createOrderHandler, fine, settle, bind_assoc]
  congr 1
  funext username
  congr 1
  funext offer
  cases placeOrder username r offer with
  | error e => rfl
  | ok input =>
    simp only [bind_assoc, pure_bind]
    rfl

/-! ### How that ends -/

section Settled

variable {s : Service} {context : RequestContext} {r : OrderRequest} {st st' : ServiceState}
  {turns : List (Turn ServiceState)}

/-- **What the product service is asked for** comes to an offer, or to a fault that is its own or says that there is
no such product. -/
inductive Offered (productId : Number) (e : CallEnd) : Except Fault ProductOffer → Prop
  | data {offer : ProductOffer} (gives : e.Gives ProductOffer.ofJson offer) : Offered productId e (.ok offer)
  | gone (missing : e.Missing) : Offered productId e (.error (.http (.notFound "Product" productId.render)))
  | failure {cause : DownstreamError} (nothing : ∀ offer, ¬e.Gives ProductOffer.ofJson offer)
      (there : ¬e.Missing) : Offered productId e (.error (.downstream cause))

theorem fetchOffer_ends {productId : Number} {result : Except Fault ProductOffer}
    (way : ((fetchOffer s context productId).run st).Reaches turns (.done st' result)) :
    (∃ fault, prepareCall s.registry context (productRequest productId) = .error fault ∧ callsOf turns = [] ∧
      result = .error fault.fault) ∨
    ∃ call ending, Prepared s context (productRequest productId) call ∧ callsOf turns = [(call, ending)] ∧
      Offered productId ending result := by
  unfold fetchOffer at way
  rw [ExceptT.run_tryCatch] at way
  obtain ⟨called, rest, u, answered, before, after, -, calls⟩ := callsOf_bind way
  -- What is caught is passed on at once, so the calls are those of the fetch.
  rcases fetchResource_ends before with ⟨fault, failed, uncalled, rfl⟩ | ⟨call, ending, prepared, made, fetched⟩
  · have passed : rest = [] ∧ .error fault.fault = result := by
      cases fault <;> exact eq_of_reaches_pure after
    obtain ⟨rfl, rfl⟩ := passed
    exact .inl ⟨fault, failed, by rw [calls, uncalled]; rfl, rfl⟩
  · refine .inr ⟨call, ending, prepared, ?_⟩
    cases fetched with
    | data gives =>
      obtain ⟨rfl, rfl⟩ := eq_of_reaches_pure after
      exact ⟨by rw [calls, made]; rfl, .data gives⟩
    | @failure cause nothing missing =>
      by_cases gone : cause.status = some 404
      · have passed : rest = [] ∧ .error (.http (.notFound "Product" productId.render)) = result := by
          dsimp only at after
          rw [if_pos gone] at after
          exact eq_of_reaches_pure after
        obtain ⟨rfl, rfl⟩ := passed
        exact ⟨by rw [calls, made]; rfl, .gone (missing.1 gone)⟩
      · have passed : rest = [] ∧ .error (.downstream cause) = result := by
          dsimp only at after
          rw [if_neg gone] at after
          exact eq_of_reaches_pure after
        obtain ⟨rfl, rfl⟩ := passed
        exact ⟨by rw [calls, made]; rfl, .failure nothing fun there => gone (missing.2 there)⟩

/-- **What is settled, as a result:** the order that is to be placed, or a fault that is told under its status. -/
def Amounts (status : Nat) (placed : Option OrderInput) : Except Fault (OrderInput × Number) → Prop
  | .ok what => placed = some what.1 ∧ status = 201
  | .error fault => placed = none ∧ fault.report.status = status ∧ ∀ r, fault.headers r = []

theorem amounts_fault (fault : CallFault) : Amounts fault.status none (.error fault.fault) := by
  cases fault with
  | unknownService service => exact ⟨rfl, rfl, fun _ => rfl⟩
  | unbuildable => exact ⟨rfl, rfl, fun _ => rfl⟩

/-- **How settling ends.** -/
theorem settling_of_path (quantity : r.quantity.Counts) {result : Except Fault (OrderInput × Number)}
    (way : ((settle s context r).run st).Reaches turns (.done st' result)) :
    ∃ status placed, Settling s context r (callsOf turns) status placed ∧ Amounts status placed result := by
  have liberal := liberal_idle (σ := ServiceState) fun _ _ => True
  unfold settle at way
  rw [ExceptT.run_bind] at way
  obtain ⟨asked, turns₁, u₁, named, ask, way, -, calls⟩ := callsOf_bind way
  rw [calls]
  rcases fetchResource_ends ask with ⟨fault, failed, uncalled, rfl⟩ | ⟨call, ending, prepared, made, fetched⟩
  · obtain ⟨rfl, rfl⟩ := eq_of_reaches_pure way
    rw [uncalled]
    exact ⟨_, _, .uncalled failed, amounts_fault fault⟩
  rw [made]
  cases fetched with
  | @failure cause nothing missing =>
    obtain ⟨rfl, rfl⟩ := eq_of_reaches_pure way
    have settling : Settling s context r [(call, ending)] 502 none := .nameless prepared nothing
    exact ⟨_, _, settling, rfl, rfl, fun _ => rfl⟩
  | @data name gives =>
    have known : Named s context (call, ending) name := ⟨prepared, gives⟩
    dsimp only at way
    rw [ExceptT.run_bind] at way
    obtain ⟨asked', turns₂, u₂, offered, ask', way, -, calls'⟩ := callsOf_bind way
    rw [calls']
    rcases fetchOffer_ends ask' with ⟨fault, failed, uncalled, rfl⟩ | ⟨call', ending', prepared', made', came⟩
    · obtain ⟨rfl, rfl⟩ := eq_of_reaches_pure way
      rw [uncalled]
      exact ⟨_, _, .unasked known failed, amounts_fault fault⟩
    rw [made']
    cases came with
    | gone missing =>
      obtain ⟨rfl, rfl⟩ := eq_of_reaches_pure way
      have settling : Settling s context r [(call, ending), (call', ending')] 404 none := .gone known prepared' missing
      exact ⟨_, _, settling, rfl, rfl, fun _ => rfl⟩
    | failure nothing there =>
      obtain ⟨rfl, rfl⟩ := eq_of_reaches_pure way
      have settling : Settling s context r [(call, ending), (call', ending')] 502 none :=
        .offerless known prepared' nothing there
      exact ⟨_, _, settling, rfl, rfl, fun _ => rfl⟩
    | @data offer gives' =>
      dsimp only [placeOrder] at way
      by_cases less : offer.stock < r.quantity
      · rw [if_pos less] at way
        obtain ⟨rfl, rfl⟩ := eq_of_reaches_pure way
        have settling : Settling s context r [(call, ending), (call', ending')] 409 none :=
          .short known prepared' gives' less
        exact ⟨_, _, settling, rfl, rfl, fun _ => rfl⟩
      · rw [if_neg less] at way
        have enough := le_of_not_lt (stock_ne_nan gives') quantity.ne_nan less
        obtain ⟨rest, u₃, now, -, way, quiet⟩ := callsOf_bind_idle (.time liberal) way
        obtain ⟨rfl, rfl⟩ := eq_of_reaches_pure way
        rw [quiet]
        have settling : Settling s context r [(call, ending), (call', ending')] 201 (some (orderFor name r offer)) :=
          .settled known prepared' gives' enough
        exact ⟨_, _, settling, rfl, rfl⟩

/-- **Reading:** the state stays as it is, but others may be called. -/
def Contract.reading (relies : (q : Ask) → q.Answer → Prop) : Contract ServiceState where
  relies
  keeps s t := s = t
  asks _ := True
  refl _ := rfl
  trans := Eq.trans

/-- Settling changes nothing, and what is settled has a time that the clock has shown. -/
theorem within_settle (relies : (q : Ask) → q.Answer → Prop) (s : Service) (context : RequestContext)
    (r : OrderRequest) :
    Task.Within (Contract.reading relies) (fun result => ∀ what, result = .ok what → relies .time what.2)
      (settle s context r).run := by
  have liberal : (Contract.reading relies).Liberal := fun _ _ => trivial
  have calls : ∀ call, (Contract.reading relies).asks (.call call) := fun _ => trivial
  unfold settle
  rw [ExceptT.run_bind]
  refine Task.Within.bind (within_fetchResource liberal calls s context _ _ _) fun named _ => ?_
  cases named with
  | error fault => exact .pure fun what same => by cases same
  | ok username =>
    dsimp only
    rw [ExceptT.run_bind]
    refine Task.Within.bind (within_fetchOffer liberal calls s context _) fun offered _ => ?_
    cases offered with
    | error fault => exact .pure fun what same => by cases same
    | ok offer =>
      dsimp only
      cases placeOrder username r offer with
      | error e => exact .pure fun what same => by cases same
      | ok input =>
        dsimp only
        rw [Handling.run_bind_ofTask]
        refine Task.Within.bind (.time liberal) fun now shown => .pure fun what same => ?_
        cases same
        exact shown

/-- **The stores with one more order,** the last one, under the next id. -/
def ServiceState.withOrder (st : ServiceState) (value : OrderRecord) : ServiceState :=
  { st with orders := (st.orders.create value).1 }

/-- What is logged about an order that was placed. -/
def orderLog (r : OrderRequest) (input : OrderInput) (id : Nat) : LogEntry :=
  .make .info "Order created"
    [("orderId", some (.nat id)), ("username", some (.string input.username)),
      ("productId", some (.number r.productId))]

/-- **Placing ends** with the order among the others. -/
theorem enter_ends {what : OrderInput × Number} {createdAt : String}
    (shown : (Instant.ofMillis what.2).text? = some createdAt) {result : Except Fault Answer}
    (way : ((enter r what).run st).Reaches turns (.done st' result)) :
    Unchanging (steps (st.withOrder ⟨what.1.members, createdAt⟩) turns st') ∧ callsOf turns = [] ∧
      result = .ok (.ofStatus 201 (Order.toJson ⟨st.orders.nextId, ⟨what.1.members, createdAt⟩⟩)) := by
  have liberal := liberal_idle (σ := ServiceState) fun _ _ => True
  have placed : st.orders.place what.1.members what.2 =
      ((st.orders.create ⟨what.1.members, createdAt⟩).1, some ⟨st.orders.nextId, ⟨what.1.members, createdAt⟩⟩) := by
    rw [OrderStore.place, shown]
    rfl
  -- The order is placed before anything is asked, so the first question is that of the log.
  have entered : (enter r what).run st = (Task.log (orderLog r what.1 st.orders.nextId) >>= fun _ =>
      pure (.ok (.ofStatus 201 (Order.toJson ⟨st.orders.nextId, ⟨what.1.members, createdAt⟩⟩)) : Except Fault Answer))
        (st.withOrder ⟨what.1.members, createdAt⟩) := by
    unfold enter
    rw [Handling.run_bind_ofTask, Task.modifyGet_bind]
    dsimp only
    rw [placed]
    dsimp only
    rw [Handling.log, Handling.run_bind_ofTask]
    rfl
  rw [entered] at way
  have ends : Task.Within (Contract.idle ServiceState fun _ _ => True)
      (fun result : Except Fault Answer =>
        result = .ok (.ofStatus 201 (Order.toJson ⟨st.orders.nextId, ⟨what.1.members, createdAt⟩⟩)))
      (Task.log (orderLog r what.1 st.orders.nextId) >>= fun _ =>
        pure (.ok (.ofStatus 201 (Order.toJson ⟨st.orders.nextId, ⟨what.1.members, createdAt⟩⟩)))) :=
    .bind (.log liberal _) fun _ _ => .pure rfl
  exact idle_path ends way

end Settled

/-! ### The whole way -/

/-- What counts as the body of a request for an order; no body counts as an empty object. -/
def orderBody : Json → Json
  | .null => .object []
  | body => body

/-- **How a request for an order ends,** along its turns from the stores at its arrival to the last ones.  Only the
last of these ends changes the stores, and that is the only one with status 201. -/
inductive Placing (s : Service) (r : Request) (context : RequestContext) (arrival : ServiceState)
    (turns : List (Turn ServiceState)) (last : ServiceState) (reply : Reply) : Prop
  /-- The gate has turned it away. -/
  | refused (gate : reply.status ∈ [401, 403, 503]) (uncalled : callsOf turns = [])
      (unchanging : Unchanging (steps arrival turns last))
  | unreadable {f : BodyFault} (faulty : readBody r = .error f) (status : reply.status = f.status)
      (uncalled : callsOf turns = []) (unchanging : Unchanging (steps arrival turns last))
  /-- The body does not ask for an order. -/
  | invalid {body : Json} (read : readBody r = .ok body)
      (unfit : ∀ order, OrderRequest.ofBody (orderBody body) ≠ .fine order) (status : reply.status = 400)
      (uncalled : callsOf turns = []) (unchanging : Unchanging (steps arrival turns last))
  /-- No order comes of what is asked for. -/
  | failed {body : Json} {order : OrderRequest} {caller : Principal}
      (vouched : Vouched s.gate r .anyone turns caller) (read : readBody r = .ok body)
      (fit : OrderRequest.ofBody (orderBody body) = .fine order)
      (settling : Settling s context order (callsOf turns) reply.status none)
      (unchanging : Unchanging (steps arrival turns last))
  /-- The order is placed, in one step. -/
  | placed {body : Json} {order : OrderRequest} {input : OrderInput} {before : ServiceState} {createdAt : String}
      {caller : Principal} (vouched : Vouched s.gate r .anyone turns caller) (read : readBody r = .ok body)
      (fit : OrderRequest.ofBody (orderBody body) = .fine order) (status : reply.status = 201)
      (settling : Settling s context order (callsOf turns) 201 (some input))
      (turning : Turning (steps arrival turns last) before (before.withOrder ⟨input.members, createdAt⟩))
      (text : reply.text = (Order.toJson ⟨before.orders.nextId, ⟨input.members, createdAt⟩⟩).render)

theorem CallFault.status_mem (fault : CallFault) : fault.status ∈ [500, 502] := by
  cases fault <;> simp [status]

/-- An order that does not come about has a status of its own. -/
theorem Settling.status_mem {s : Service} {context : RequestContext} {r : OrderRequest}
    {calls : List (OutboundCall × CallEnd)} {status : Nat} (settling : Settling s context r calls status none) :
    status ∈ [404, 409, 500, 502] := by
  cases settling with
  | uncalled failed => exact List.mem_cons_of_mem _ (List.mem_cons_of_mem _ (CallFault.status_mem _))
  | unasked named failed => exact List.mem_cons_of_mem _ (List.mem_cons_of_mem _ (CallFault.status_mem _))
  | _ => decide

/-- What is said about a request that has issues. -/
def invalidReport (message : String) (issues : List Issue) : ErrorReport where
  status := 400
  code := "request.invalid"
  message
  details := some (.object [("issues", .array (issues.map Issue.toJson))])

/-- The answer to a request that has issues. -/
theorem within_invalidAnswer_real (i : Inbound) (message : String) (issues : List Issue) :
    Task.Within (Contract.idle ServiceState Real)
      (fun result => ∃ now body, (invalidReport message issues).body? i.request.target now = some body ∧
        result = .ok (.ofStatus 400 body))
      (invalidAnswer i message issues).run := by
  unfold invalidAnswer
  rw [Handling.run_bind_ofTask]
  refine .bind (.time (liberal_idle Real)) fun now shown => ?_
  obtain ⟨body, made⟩ := (invalidReport message issues).exists_body? i.request.target shown
  have answered : (invalidReport message issues).body? i.request.target now = some body := made
  unfold invalidReport at made
  dsimp only
  rw [made]
  exact .pure ⟨now, body, answered, rfl⟩

/-- The faults of bodies have statuses that go with a body. -/
theorem BodyFault.status_mem (f : BodyFault) : f.status ∈ [400, 413, 415] := by
  cases f <;> simp [status]

section Way

variable {s : Service} {m : Match} {r : Request} {arrival last : ServiceState} {turns : List (Turn ServiceState)}
  {reply : Reply}

/-- The end of the way stands still and calls nobody. -/
theorem depart_idle {m : Option Match} {ruling : Ruling} {result : Except Fault Draft} {v : ServiceState}
    (sent : (depart s m r ruling result v).Reaches turns (.done last reply)) :
    Unchanging (steps v turns last) ∧ callsOf turns = [] := by
  have liberal := liberal_idle (σ := ServiceState) fun _ _ => True
  obtain ⟨unchanging, uncalled, -⟩ := idle_path (within_depart liberal (within_send liberal _ r result)) sent
  exact ⟨unchanging, uncalled⟩

/-- **Every request for an order ends so.** -/
theorem placing_of_ending (creates : m.endpoint = .createOrder) (posts : r.method = "POST")
    (ending : Ending s (some m) r arrival turns last reply) (real : ∀ t ∈ turns, Real t.question t.answer)
    (deliverable : r.Deliverable) :
    ∃ context, context.token = bearerToken? (r.header? "authorization") ∧
      isReplyHeader ("x-request-id", context.requestId) = true ∧ Placing s r context arrival turns last reply := by
  cases ending with
  | @refused cause refusal unchanging uncalled =>
    exact ⟨contextOf r "", rfl, rfl, .refused refusal.status_mem uncalled unchanging⟩
  | @handled caller ruling front ran back u v result parts vouched known token numbered id_fine entry uncalled path
      sent =>
    have liberal := liberal_idle (σ := ServiceState) fun _ _ => True
    refine ⟨ruling.context, token, by rw [numbered]; exact id_fine, ?_⟩
    obtain ⟨exit, silent⟩ := depart_idle sent
    have calls : callsOf turns = callsOf ran := by
      rw [parts, callsOf_append, callsOf_append, uncalled, silent, List.append_nil, List.nil_append]
    have real_ran : ∀ t ∈ ran, Real t.question t.answer := fun t member => real t (by
      rw [parts]
      exact List.mem_append_right _ (List.mem_append_left _ member))
    have real_back : ∀ t ∈ back, Real t.question t.answer := fun t member => real t (by
      rw [parts]
      exact List.mem_append_right _ (List.mem_append_right _ member))
    -- Where the handler changes nothing, nothing is changed on the whole way.
    have whole : Unchanging (steps u ran v) → Unchanging (steps arrival turns last) := by
      intro still
      rw [parts]
      exact unchanging_append entry (unchanging_append still exit)
    have own : required (some m) = .anyone := by
      rw [required, creates, if_neg (by decide)]
    rw [own] at vouched
    replace vouched : Vouched s.gate r .anyone turns caller :=
      vouched.mono ⟨[], ran ++ back, by rw [parts, List.nil_append]⟩
    rcases handled_cases path with ⟨f, faulty, rfl, rfl, rfl⟩ | ⟨body, answer, read, way, rfl⟩
    · have status := status_of_fault (f := .unreadable f.status f.message) deliverable id_fine rfl (by
        intro none
        have listed := f.status_mem
        rw [show f.status = noContent from none] at listed
        exact absurd listed (by decide)) real_back sent
      refine .unreadable faulty status calls (whole ?_)
      intro p member
      rw [List.mem_singleton.1 member]
    · have handler : m.endpoint.handler = createOrderHandler := by
        rw [creates]
        rfl
      rw [handler] at way
      cases asked : OrderRequest.ofBody (orderBody body) with
      | faulty first others =>
        have invalid : createOrderHandler s (inboundOf m r ruling.context body) =
            invalidAnswer (inboundOf m r ruling.context body) "Validation failed" (first :: others) := by
          have same : OrderRequest.ofBody (inboundOf m r ruling.context body).bodyObject = .faulty first others :=
            asked
          rw [createOrderHandler, same]
        rw [invalid] at way
        obtain ⟨now, report, -, rfl⟩ := ((within_invalidAnswer_real _ _ _ u).of_reaches way real_ran).2
        obtain ⟨still, quiet, -⟩ := idle_path (within_invalidAnswer liberal _ _ _) way
        have told := reply_of_answered deliverable id_fine (by decide) sent
        refine .invalid read (fun order fit => ?_) (by rw [told]; rfl) (calls.trans quiet) (whole still)
        rw [asked] at fit
        cases fit
      | fine order =>
        have split_up : createOrderHandler s (inboundOf m r ruling.context body) =
            settle s ruling.context order >>= enter order := createOrderHandler_eq asked
        rw [split_up, ExceptT.run_bind, Task.bind_apply] at way
        obtain ⟨first, rest, w, what, rfl, settles, way⟩ := Step.reaches_bind_done way
        have real_first : ∀ t ∈ first, Real t.question t.answer :=
          fun t member => real_ran t (List.mem_append_left _ member)
        have kept : Unchanging (steps u first w) := fun p member =>
          (keeps_of_reaches settles (within_settle Real s ruling.context order u) real_first p member).symm
        obtain ⟨status, placed, settling, amounts⟩ := settling_of_path (counts_of_ofBody asked).2 settles
        cases what with
        | error fault =>
          obtain ⟨rfl, told, bare⟩ := amounts
          obtain ⟨rfl, rfl, rfl⟩ := eq_of_reaches_done way
          rw [List.append_nil] at calls whole
          have listed := settling.status_mem
          have content : fault.report.status ≠ noContent := by
            rw [told]
            rintro rfl
            exact absurd listed (by decide)
          have status_eq := status_of_fault deliverable id_fine (bare r) content real_back sent
          rw [← told, ← status_eq, ← calls] at settling
          exact .failed vouched read asked settling (whole kept)
        | ok what =>
          obtain ⟨rfl, rfl⟩ := amounts
          have shown := ((within_settle Real s ruling.context order u).of_reaches settles real_first).2
            what rfl
          obtain ⟨createdAt, shown⟩ := Option.isSome_iff_exists.1 shown
          obtain ⟨still, quiet, rfl⟩ := enter_ends shown way
          have told := reply_of_answered deliverable id_fine (by decide) sent
          rw [callsOf_append, quiet, List.append_nil] at calls
          rw [← calls] at settling
          have open_text : (s.outlet (some m) r ruling.id).withholdsText = false := by
            change (true && decide (r.method = "HEAD")) = false
            rw [posts]
            rfl
          have turning : Turning (steps arrival turns last) w (w.withOrder ⟨what.1.members, createdAt⟩) := by
            rw [parts, List.append_assoc, ← List.append_assoc]
            exact turning_append (unchanging_append entry kept) (unchanging_append still exit)
          have text : reply.text = (Order.toJson ⟨w.orders.nextId, ⟨what.1.members, createdAt⟩⟩).render := by
            rw [told, jsonReplyOf, open_text]
            rfl
          exact .placed vouched read asked (by rw [told]; rfl) settling turning text

end Way

end BearerGate
