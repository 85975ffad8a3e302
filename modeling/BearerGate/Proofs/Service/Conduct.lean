import BearerGate.Proofs.Service.Path
import BearerGate.Proofs.Service.Routes

/-!
# How handlers conduct themselves

What each part of a service may do, as contracts.  Under `Contract.idle` a task leaves the state as it is
and calls nobody; under `Contract.catalogue` it leaves the products as they are.  Sending an answer, and
every handler that only reads, keeps to any contract that is liberal; only the three handlers that write
products do not keep to `Contract.catalogue`.
-/

namespace BearerGate

/-! ### Two contracts -/

/-- **Doing nothing:** the state stays as it is, and nobody is called. -/
def Contract.idle (σ : Type) (relies : (q : Ask) → q.Answer → Prop) : Contract σ where
  relies
  keeps s t := s = t
  asks q := ∀ call, q ≠ .call call
  refl _ := rfl
  trans := Eq.trans

/-- **Leaving the catalogue alone.** -/
def Contract.catalogue : Contract ServiceState where
  relies _ _ := True
  keeps s t := s.products = t.products
  asks _ := True
  refl _ := rfl
  trans := Eq.trans

theorem liberal_idle {σ : Type} (relies : (q : Ask) → q.Answer → Prop) :
    (Contract.idle σ relies).Liberal :=
  fun _ no_call => no_call

theorem liberal_catalogue : Contract.catalogue.Liberal := fun _ _ => trivial

/-! ### Handlers that may fail -/

/-- A handler's way that keeps to a contract, however it ends. -/
def Handling.Within {σ α : Type} (c : Contract σ) (h : Handling σ α) : Prop :=
  Task.Within c (fun _ => True) h.run

/-- A handler goes on with the value of a task as any task does. -/
theorem Handling.run_bind_ofTask {σ α β : Type} (t : Task σ α) (f : α → Handling σ β) :
    (Handling.ofTask t >>= f).run = t >>= fun a => (f a).run := by
  rw [Handling.ofTask, ExceptT.run_bind, ExceptT.run_lift, bind_map_left]

namespace Handling.Within

variable {σ α β : Type} {c : Contract σ}

theorem pure (a : α) : Handling.Within c (Pure.pure a : Handling σ α) := Task.Within.pure trivial

theorem fail (f : Fault) : Handling.Within c (Handling.fail f : Handling σ α) := Task.Within.pure trivial

theorem bind {h : Handling σ α} {f : α → Handling σ β} (first : h.Within c)
    (next : ∀ a, (f a).Within c) : Handling.Within c (h >>= f) := by
  rw [Handling.Within, ExceptT.run_bind]
  refine Task.Within.bind first fun result _ => ?_
  cases result with
  | ok a => exact next a
  | error e => exact Task.Within.pure trivial

theorem ofTask {post : α → Prop} {t : Task σ α} (within : t.Within c post) :
    Handling.Within c (Handling.ofTask t) := by
  rw [Handling.Within, Handling.ofTask, ExceptT.run_lift]
  exact within.map fun _ _ => trivial

theorem bind_ofTask {post : α → Prop} {t : Task σ α} {f : α → Handling σ β} (first : t.Within c post)
    (next : ∀ a, post a → (f a).Within c) : Handling.Within c (Handling.ofTask t >>= f) := by
  rw [Handling.Within, Handling.run_bind_ofTask]
  exact Task.Within.bind first next

theorem tryCatch {h : Handling σ α} {f : Fault → Handling σ α} (first : h.Within c)
    (next : ∀ e, (f e).Within c) : Handling.Within c (MonadExcept.tryCatch h f) := by
  rw [Handling.Within, ExceptT.run_tryCatch]
  refine Task.Within.bind first fun result _ => ?_
  cases result with
  | ok a => exact Task.Within.pure trivial
  | error e => exact next e

theorem log (liberal : c.Liberal) (e : LogEntry) : Handling.Within c (Handling.log e) :=
  ofTask (Task.Within.log liberal e)

end Handling.Within

/-! ### Handlers that only read -/

section Readers

variable {c : Contract ServiceState} (liberal : c.Liberal)

theorem within_caller (i : Inbound) : Handling.Within c (caller i) := by
  unfold caller
  cases i.principalOf with
  | ok p => exact .pure p
  | error f => exact .fail f

include liberal

theorem within_invalidAnswer (i : Inbound) (message : String) (issues : List Issue) :
    Handling.Within c (invalidAnswer i message issues) := by
  unfold invalidAnswer
  refine .bind (.ofTask (.time liberal)) fun now => ?_
  dsimp only
  split
  · exact .pure _
  · exact .fail _

omit liberal in
/-- Health looks at the key cache, and asks for nothing else. -/
theorem within_healthHandler_of_looks (held : c.asks .heldKeys) (stats : c.asks .keyStats) (s : Service)
    (i : Inbound) : Handling.Within c (healthHandler s i) := by
  unfold healthHandler
  refine .bind (.ofTask (.ask held)) fun shown => .bind (.ofTask (.ask stats)) fun counted => ?_
  refine .bind ?_ fun fetchedAt => .pure _
  unfold fetchTime
  split
  · exact .pure _
  · split
    · exact .pure _
    · exact .fail _

theorem within_healthHandler (s : Service) (i : Inbound) : Handling.Within c (healthHandler s i) :=
  within_healthHandler_of_looks (liberal .heldKeys (by simp)) (liberal .keyStats (by simp)) s i

theorem within_readyHandler (s : Service) (i : Inbound) : Handling.Within c (readyHandler s i) := by
  unfold readyHandler
  refine .bind (.ofTask (.ask (liberal .heldKeys (by simp)))) fun held => ?_
  split
  · exact .bind (.ofTask (.ask (liberal .refreshKeys (by simp)))) fun a => .pure _
  · exact .pure _

theorem within_metricsHandler (s : Service) (i : Inbound) : Handling.Within c (metricsHandler s i) :=
  .bind (.ofTask (.ask (liberal .metricsText (by simp)))) fun _ => .pure _

theorem within_meHandler (s : Service) (i : Inbound) : Handling.Within c (meHandler s i) := by
  unfold meHandler
  refine .bind (within_caller i) fun p => .bind (.log liberal _) fun _ => ?_
  split
  · exact .pure _
  · exact .fail _

theorem within_userHandler (s : Service) (i : Inbound) : Handling.Within c (userHandler s i) := by
  unfold userHandler
  split
  · exact within_invalidAnswer liberal i _ _
  · exact .bind (within_caller i) fun p => .bind (.log liberal _) fun _ => .pure _

theorem within_createUserHandler (s : Service) (i : Inbound) :
    Handling.Within c (createUserHandler s i) := by
  unfold createUserHandler
  split
  · exact within_invalidAnswer liberal i _ _
  · exact .bind (within_caller i) fun p => .bind (.log liberal _) fun _ => .pure _

theorem within_listProductsHandler (s : Service) (i : Inbound) :
    Handling.Within c (listProductsHandler s i) :=
  .bind (.ofTask .get) fun _ => .bind (within_caller i) fun _ => .bind (.log liberal _) fun _ => .pure _

theorem within_getProductHandler (s : Service) (i : Inbound) :
    Handling.Within c (getProductHandler s i) := by
  unfold getProductHandler
  split
  · exact within_invalidAnswer liberal i _ _
  · refine .bind (.ofTask .get) fun st => ?_
    split
    · exact .pure _
    · exact .fail _

omit liberal in
theorem within_listOrdersHandler (s : Service) (i : Inbound) :
    Handling.Within c (listOrdersHandler s i) :=
  .bind (within_caller i) fun _ => .bind (.ofTask .get) fun _ => .pure _

theorem within_getOrderHandler (s : Service) (i : Inbound) :
    Handling.Within c (getOrderHandler s i) := by
  unfold getOrderHandler
  split
  · exact within_invalidAnswer liberal i _ _
  · refine .bind (.ofTask .get) fun st => ?_
    split
    · exact .fail _
    · refine .bind (within_caller i) fun p => ?_
      split
      · exact .pure _
      · exact .fail _

end Readers

/-! ### Handlers that call other services -/

section Callers

variable {c : Contract ServiceState} (liberal : c.Liberal) (calls : ∀ call, c.asks (.call call))
include liberal calls

theorem within_callService (s : Service) (context : RequestContext) (r : ServiceRequest) :
    Handling.Within c (callService s context r) := by
  unfold callService
  split
  · exact .fail _
  · exact .fail _
  · rename_i call log prepared
    refine .bind (.ofTask (.logAll liberal _)) fun _ => ?_
    refine .bind (.ofTask (.ask (calls call))) fun ending => ?_
    dsimp only
    refine .bind (.ofTask (.record liberal _)) fun _ => .bind (.ofTask (.logAll liberal _)) fun _ => ?_
    split
    · exact .pure _
    · exact .fail _

theorem within_fetchResource {α : Type} (s : Service) (context : RequestContext) (service path : String)
    (shape : Json → Option α) : Handling.Within c (fetchResource s context service path shape) := by
  unfold fetchResource
  refine .bind (within_callService liberal calls s context _) fun response => ?_
  split
  · exact .pure _
  · exact .fail _

theorem within_relayHandler (s : Service) (i : Inbound) : Handling.Within c (relayHandler s i) := by
  unfold relayHandler
  dsimp only
  split
  · exact .fail _
  · exact .bind (within_callService liberal calls s i.context _) fun _ =>
      .bind (.log liberal _) fun _ => .pure _

theorem within_fetchOffer (s : Service) (context : RequestContext) (productId : Number) :
    Handling.Within c (fetchOffer s context productId) := by
  refine .tryCatch (within_fetchResource liberal calls s context _ _ _) fun f => ?_
  split
  · split
    · exact .fail _
    · exact .fail _
  · exact .fail _

/-- Placing an order adds it to the orders at the time that the clock shows, and does nothing else. -/
theorem within_createOrderHandler
    (orders : ∀ (st : ServiceState) (members : Members) (now : Number), c.relies .time now →
      c.keeps st { st with orders := (st.orders.place members now).1 })
    (s : Service) (i : Inbound) : Handling.Within c (createOrderHandler s i) := by
  unfold createOrderHandler
  split
  · exact within_invalidAnswer liberal i _ _
  · rename_i r
    refine .bind (within_fetchResource liberal calls s i.context _ _ _) fun username => ?_
    refine .bind (within_fetchOffer liberal calls s i.context _) fun offer => ?_
    split
    · exact .fail _
    · refine .bind_ofTask (.time liberal) fun now shown => ?_
      refine .bind (.ofTask (.modifyGet fun st => orders st _ now shown)) fun placed => ?_
      split
      · exact .fail _
      · exact .bind (.log liberal _) fun _ => .pure _

end Callers

/-! ### All handlers -/

/-- **Every other handler leaves the catalogue alone.** -/
theorem within_handler_catalogue {e : Endpoint} (reads : e.writesProducts = false) (s : Service)
    (i : Inbound) : Handling.Within Contract.catalogue (e.handler s i) := by
  have calls : ∀ call, Contract.catalogue.asks (.call call) := fun _ => trivial
  cases e with
  | health => exact within_healthHandler liberal_catalogue s i
  | ready => exact within_readyHandler liberal_catalogue s i
  | metrics => exact within_metricsHandler liberal_catalogue s i
  | relay => exact within_relayHandler liberal_catalogue calls s i
  | me => exact within_meHandler liberal_catalogue s i
  | adminOnly => exact .bind (within_caller i) fun _ => .pure _
  | jwtInfo => exact .pure _
  | user => exact within_userHandler liberal_catalogue s i
  | createUser => exact within_createUserHandler liberal_catalogue s i
  | listProducts => exact within_listProductsHandler liberal_catalogue s i
  | getProduct => exact within_getProductHandler liberal_catalogue s i
  | createProduct => cases reads
  | updateProduct => cases reads
  | deleteProduct => cases reads
  | listOrders => exact within_listOrdersHandler s i
  | getOrder => exact within_getOrderHandler liberal_catalogue s i
  | createOrder =>
    exact within_createOrderHandler liberal_catalogue calls (fun _ _ _ _ => rfl) s i
  | probe p =>
    unfold Endpoint.handler
    dsimp only
    split
    · exact .pure _
    · exact .fail _

/-- **The public handlers change nothing and call nobody.** -/
theorem within_handler_idle {e : Endpoint} (is_public : e.isPublic = true)
    (relies : (q : Ask) → q.Answer → Prop) (s : Service) (i : Inbound) :
    Handling.Within (Contract.idle ServiceState relies) (e.handler s i) := by
  cases e with
  | health => exact within_healthHandler (liberal_idle relies) s i
  | ready => exact within_readyHandler (liberal_idle relies) s i
  | metrics => exact within_metricsHandler (liberal_idle relies) s i
  | _ => cases is_public

/-! ### Behind the gate, and out again -/

/-- **A contract under which answers are sent:** one may log, and look at the clock. -/
structure Contract.LetsSend {σ : Type} (c : Contract σ) : Prop where
  logs : ∀ e, c.asks (.log e)
  time : c.asks .time

namespace Contract.LetsSend

variable {σ : Type} {c : Contract σ} (sends : c.LetsSend)
include sends

theorem within_sendPlainly (o : Outlet) (kept : List (String × String)) (status : Nat)
    (earlier : FailedAttempt) :
    Task.Within c (fun _ => True) (o.sendPlainly kept status earlier : Task σ Reply) := by
  unfold Outlet.sendPlainly
  refine .bind (.ask (sends.logs _)) fun _ _ => ?_
  dsimp only
  split
  · exact .pure trivial
  · exact .bind (.ask (sends.logs _)) fun _ _ => .pure trivial

theorem within_sendFault (o : Outlet) (r : Request) (f : Fault) (kept written : List (String × String)) :
    Task.Within c (fun _ => True) (o.sendFault r f kept written : Task σ Reply) := by
  unfold Outlet.sendFault
  refine .bind (.logEach sends.logs _) fun _ _ => .bind (.ask sends.time) fun now _ => ?_
  dsimp only
  split
  · exact .pure trivial
  · exact sends.within_sendPlainly o _ _ _

/-- **Sending an answer** only logs, and looks at the clock. -/
theorem within_send (o : Outlet) (r : Request) (result : Except Fault Draft) :
    Task.Within c (fun _ => True) (o.send r result : Task σ Reply) := by
  cases result with
  | error f => exact sends.within_sendFault o r f [] []
  | ok d =>
    unfold Outlet.send Outlet.sendDraft
    dsimp only
    split
    · exact .pure trivial
    · exact sends.within_sendFault o r _ _ _

end Contract.LetsSend

section Way

variable {σ : Type} {c : Contract σ} (liberal : c.Liberal)
include liberal

theorem Contract.Liberal.letsSend : c.LetsSend :=
  ⟨fun e => liberal (.log e) (by simp), liberal .time (by simp)⟩

theorem within_send (o : Outlet) (r : Request) (result : Except Fault Draft) :
    Task.Within c (fun _ => True) (o.send r result : Task σ Reply) :=
  liberal.letsSend.within_send o r result

theorem within_requestId (r : Request) :
    Task.Within c (fun _ => True) (requestId r : Task σ String) := by
  unfold requestId
  split
  · exact .pure trivial
  · exact .bind (.ask (liberal .requestNumber (by simp))) fun _ _ => .pure trivial

end Way

/-- An endpoint waits for the body as it is read. -/
theorem bodyFor_some (m : Match) (r : Request) : bodyFor (some m) r = readBody r := by
  unfold bodyFor
  split
  · rename_i same
    cases same
  · rfl

/-- **What is behind the gate keeps to a contract** if the handler does with the body of the request. -/
theorem within_handle {c : Contract ServiceState} (liberal : c.Liberal) (s : Service) (m : Option Match)
    (r : Request) (context : RequestContext)
    (handler : ∀ m', m = some m' → ∀ i, readBody r = .ok i.body → Handling.Within c (m'.endpoint.handler s i)) :
    Task.Within c (fun _ => True) (handle s m r context) := by
  unfold handle
  split
  · exact .pure trivial
  · rename_i body read
    split
    · exact .bind (.time liberal) fun _ _ => .pure trivial
    · rw [bodyFor_some] at read
      exact .bind (handler _ rfl _ read) fun _ _ => .pure trivial

end BearerGate
