import BearerGate.Proofs.Service.Refusal

/-!
# What handlers count, and under which statuses they answer

A handler counts nothing but its calls, and those under the name of a service; and its answer has a status of
three digits.  The latter relies on what HTTP says of statuses, for a status that another service has sent may be
passed on.  Both are said by one contract, `Contract.modest`, which every handler keeps to
(`modest_handler`), and so do the gate's way up to its ruling, the handling of a request, and the sending of what
came of it.
-/

namespace BearerGate

/-! ### The contract -/

/-- **A status of three digits,** or fewer. -/
def isShort (status : Nat) : Prop := status < 1000

/-- **Ordinary answers:** a search for a key ends as a cache ends it, and the statuses of other services are
those of HTTP. -/
def Ordinary : (q : Ask) → q.Answer → Prop
  | .key _, answer => ∃ a, answer = KeySession.keyAnswer a
  | .call _, ending => ∀ reply, CallEnd.reply ending = some reply → isShort reply.status
  | _, _ => True

/-- **The count of a call** on one of the services. -/
def MetricEvent.OfCall (e : MetricEvent) : Prop :=
  ∃ (callee : ServiceName) (result : CallResult) (authenticated : Bool),
    e = .propagatedCall callee.name result.name authenticated

/-- No search of a cache breaks down. -/
theorem not_keyAnswer_broken {why : String} : ¬∃ a, KeyAnswer.broken why = KeySession.keyAnswer a := by
  rintro ⟨(_ | found) | cause | n | issuer, same⟩ <;> cases same

/-- **Counting nothing but calls,** as long as the answers are ordinary. -/
def Contract.modest : Contract ServiceState where
  relies := Ordinary
  keeps _ _ := True
  asks q := ∀ e, q = .record e → e.OfCall
  refl _ := trivial
  trans _ _ := trivial

namespace Modest

/-- Whatever is no record may be asked. -/
theorem ask {q : Ask} (no_record : ∀ e, q ≠ .record e) :
    Task.Within Contract.modest (Ordinary q) (Task.ask q : Task ServiceState q.Answer) :=
  Task.Within.ask (c := Contract.modest) fun e same => absurd same (no_record e)

theorem time : Task.Within Contract.modest (fun _ => True) (Task.time : Task ServiceState Number) :=
  (ask (by simp)).mono fun _ _ => trivial

theorem timer : Task.Within Contract.modest (fun _ => True) (Task.timer : Task ServiceState Int) :=
  (ask (by simp)).mono fun _ _ => trivial

theorem log (e : LogEntry) : Task.Within Contract.modest (fun _ => True) (Task.log e : Task ServiceState Unit) :=
  (ask (by simp)).mono fun _ _ => trivial

theorem logAll (es : List LogEntry) :
    Task.Within Contract.modest (fun _ => True) (Task.logAll es : Task ServiceState Unit) := by
  induction es with
  | nil => exact .pure trivial
  | cons e es ih => exact (log e).bind fun _ _ => ih

theorem get : Task.Within Contract.modest (fun _ => True) (Task.get : Task ServiceState ServiceState) := .get

end Modest

/-! ### Handlers' ways -/

/-- The ending of a handler's way: a value of some kind, or a fault that is told under a short status. -/
def EndsShort {α : Type} (fine : α → Prop) : Except Fault α → Prop
  | .ok a => fine a
  | .error f => isShort f.report.status

/-- **A handler's way that counts nothing but calls** and ends well. -/
def Handling.Modest {α : Type} (fine : α → Prop) (h : Handling ServiceState α) : Prop :=
  Task.Within Contract.modest (EndsShort fine) h.run

/-- An answer under a short status. -/
def Answer.IsShort (a : Answer) : Prop := isShort a.status

namespace Handling.Modest

variable {α β : Type} {fine : α → Prop}

theorem pure {a : α} (holds : fine a) : Handling.Modest fine (Pure.pure a : Handling ServiceState α) :=
  Task.Within.pure holds

theorem fail {f : Fault} (short : isShort f.report.status) :
    Handling.Modest fine (Handling.fail f : Handling ServiceState α) :=
  Task.Within.pure short

theorem bind {after : β → Prop} {h : Handling ServiceState α} {f : α → Handling ServiceState β}
    (first : h.Modest fine) (next : ∀ a, fine a → (f a).Modest after) : Handling.Modest after (h >>= f) := by
  rw [Handling.Modest, ExceptT.run_bind]
  refine Task.Within.bind first fun result ended => ?_
  cases result with
  | ok a => exact next a ended
  | error f => exact Task.Within.pure ended

theorem ofTask {t : Task ServiceState α} (within : t.Within Contract.modest fine) :
    Handling.Modest fine (Handling.ofTask t) := by
  rw [Handling.Modest, Handling.ofTask, ExceptT.run_lift]
  exact within.map fun _ holds => holds

theorem log (e : LogEntry) : Handling.Modest (fun _ => True) (Handling.log e) := ofTask (BearerGate.Modest.log e)

/-- A change of the state is no question at all. -/
theorem modifyGet {f : ServiceState → ServiceState × α} :
    Handling.Modest (fun _ => True) (Handling.ofTask (Task.modifyGet f)) :=
  ofTask (.modifyGet fun _ => trivial)

theorem tryCatch {h : Handling ServiceState α} {f : Fault → Handling ServiceState α} (first : h.Modest fine)
    (next : ∀ e, isShort e.report.status → (f e).Modest fine) :
    Handling.Modest fine (MonadExcept.tryCatch h f) := by
  rw [Handling.Modest, ExceptT.run_tryCatch]
  refine Task.Within.bind first fun result ended => ?_
  cases result with
  | ok a => exact Task.Within.pure ended
  | error e => exact next e ended

end Handling.Modest

/-! ### What goes wrong -/

theorem isShort_reason (reason : Reason) : isShort reason.status := by
  unfold isShort
  cases reason <;> decide

theorem isShort_body (f : BodyFault) : isShort f.status := by
  cases f with
  | unsupported type => exact (by decide : 415 < 1000)
  | tooLarge => exact (by decide : 413 < 1000)
  | _ => exact (by decide : 400 < 1000)

theorem isShort_crash (why : String) : isShort (Fault.crash why).report.status :=
  (by decide : 500 < 1000)

theorem isShort_downstream (e : DownstreamError) : isShort (Fault.downstream e).report.status :=
  (by decide : 502 < 1000)

theorem isShort_notFound (resource id : String) : isShort (Fault.http (.notFound resource id)).report.status :=
  (by decide : 404 < 1000)

/-- The fault of an order that cannot be placed. -/
theorem isShort_placeOrder {username : String} {r : OrderRequest} {offer : ProductOffer} {e : HttpError}
    (refused : placeOrder username r offer = .error e) : isShort (Fault.http e).report.status := by
  unfold placeOrder at refused
  split at refused
  · cases refused
    exact (by decide : 409 < 1000)
  · cases refused

/-- Whatever keeps a caller from being known is told under a short status. -/
theorem isShort_principalOf {i : Inbound} {f : Fault} (unknown : i.principalOf = .error f) :
    isShort f.report.status := by
  simp only [Inbound.principalOf, principalIn, contextIn, bind, Except.bind] at unknown
  split at unknown
  · cases unknown
  · cases unknown
    exact isShort_reason .missingToken

/-! ### Handlers -/

theorem modest_caller (i : Inbound) : (caller i).Modest fun _ => True := by
  unfold caller
  split
  · exact .pure trivial
  · rename_i f unknown
    exact .fail (isShort_principalOf unknown)

theorem modest_invalidAnswer (i : Inbound) (message : String) (issues : List Issue) :
    (invalidAnswer i message issues).Modest Answer.IsShort := by
  unfold invalidAnswer
  refine .bind (.ofTask Modest.time) fun now _ => ?_
  dsimp only
  split
  · exact .pure (by decide : 400 < 1000)
  · exact .fail (isShort_crash _)

/-- An answer under a status that is written in the code. -/
theorem isShort_ok (j : Json) : (Answer.ofJson j).IsShort := (by decide : 200 < 1000)

theorem isShort_created (j : Json) : (Answer.ofStatus 201 j).IsShort := (by decide : 201 < 1000)

/-- Three handlers that are open to everyone. -/
theorem modest_healthHandler (s : Service) (i : Inbound) : (healthHandler s i).Modest Answer.IsShort := by
  unfold healthHandler
  refine .bind (.ofTask (Modest.ask (by simp))) fun held _ => .bind (.ofTask (Modest.ask (by simp))) fun stats _ => ?_
  have told : (fetchTime held).Modest fun _ => True := by
    unfold fetchTime
    split
    · exact .pure trivial
    · split
      · exact .pure trivial
      · exact .fail (isShort_crash _)
  exact .bind told fun fetchedAt _ => .pure (isShort_ok _)

theorem modest_readyHandler (s : Service) (i : Inbound) : (readyHandler s i).Modest Answer.IsShort := by
  have unready : ∀ why, (notReadyAnswer why).IsShort := fun _ => (by decide : 503 < 1000)
  unfold readyHandler
  refine .bind (.ofTask (Modest.ask (by simp))) fun held _ => ?_
  split
  · refine .bind (.ofTask (Modest.ask (by simp))) fun a _ => .pure ?_
    cases a with
    | count n =>
      change (if n = 0 then _ else _ : Answer).IsShort
      split
      · exact unready _
      · exact isShort_ok _
    | unavailable cause => exact unready _
    | unregistered issuer => exact unready _
    | key k => exact unready _
  · exact .pure (isShort_ok _)

theorem modest_metricsHandler (s : Service) (i : Inbound) : (metricsHandler s i).Modest Answer.IsShort :=
  .bind (.ofTask (Modest.ask (by simp))) fun _ _ => .pure (by decide : 200 < 1000)

theorem modest_meHandler (s : Service) (i : Inbound) : (meHandler s i).Modest Answer.IsShort := by
  unfold meHandler
  refine .bind (modest_caller i) fun p _ => .bind (.log _) fun _ _ => ?_
  split
  · exact .pure (isShort_ok _)
  · exact .fail (isShort_crash _)

theorem modest_userHandler (s : Service) (i : Inbound) : (userHandler s i).Modest Answer.IsShort := by
  unfold userHandler
  split
  · exact modest_invalidAnswer i _ _
  · exact .bind (modest_caller i) fun p _ => .bind (.log _) fun _ _ => .pure (isShort_ok _)

theorem modest_createUserHandler (s : Service) (i : Inbound) : (createUserHandler s i).Modest Answer.IsShort := by
  unfold createUserHandler
  split
  · exact modest_invalidAnswer i _ _
  · exact .bind (modest_caller i) fun p _ => .bind (.log _) fun _ _ => .pure (isShort_created _)

theorem modest_listProductsHandler (s : Service) (i : Inbound) :
    (listProductsHandler s i).Modest Answer.IsShort :=
  .bind (.ofTask Modest.get) fun _ _ => .bind (modest_caller i) fun _ _ => .bind (.log _) fun _ _ => .pure (isShort_ok _)

theorem modest_getProductHandler (s : Service) (i : Inbound) : (getProductHandler s i).Modest Answer.IsShort := by
  unfold getProductHandler
  split
  · exact modest_invalidAnswer i _ _
  · refine .bind (.ofTask Modest.get) fun st _ => ?_
    split
    · exact .pure (isShort_ok _)
    · exact .fail (isShort_notFound _ _)

theorem modest_createProductHandler (s : Service) (i : Inbound) :
    (createProductHandler s i).Modest Answer.IsShort := by
  unfold createProductHandler changeProducts
  split
  · exact modest_invalidAnswer i _ _
  · exact .bind .modifyGet fun _ _ => .bind (modest_caller i) fun _ _ => .bind (.log _) fun _ _ => .pure (isShort_created _)

theorem modest_updateProductHandler (s : Service) (i : Inbound) :
    (updateProductHandler s i).Modest Answer.IsShort := by
  unfold updateProductHandler changeProducts
  split
  · exact modest_invalidAnswer i _ _
  · refine .bind .modifyGet fun product _ => ?_
    split
    · exact .pure (isShort_ok _)
    · exact .fail (isShort_notFound _ _)

theorem modest_deleteProductHandler (s : Service) (i : Inbound) :
    (deleteProductHandler s i).Modest Answer.IsShort := by
  unfold deleteProductHandler changeProducts
  split
  · exact modest_invalidAnswer i _ _
  · refine .bind .modifyGet fun there _ => ?_
    split
    · exact .bind (modest_caller i) fun _ _ => .bind (.log _) fun _ _ => .pure (isShort_ok _)
    · exact .fail (isShort_notFound _ _)

theorem modest_listOrdersHandler (s : Service) (i : Inbound) : (listOrdersHandler s i).Modest Answer.IsShort :=
  .bind (modest_caller i) fun _ _ => .bind (.ofTask Modest.get) fun _ _ => .pure (isShort_ok _)

theorem modest_getOrderHandler (s : Service) (i : Inbound) : (getOrderHandler s i).Modest Answer.IsShort := by
  unfold getOrderHandler
  split
  · exact modest_invalidAnswer i _ _
  · refine .bind (.ofTask Modest.get) fun st _ => ?_
    split
    · exact .fail (isShort_notFound _ _)
    · refine .bind (modest_caller i) fun p _ => ?_
      split
      · exact .pure (isShort_ok _)
      · exact .fail (by decide : 403 < 1000)

/-! ### Handlers that call other services -/

/-- **A call is counted once,** under the name of the service, and its response has the status of the reply. -/
theorem modest_callService (s : Service) (context : RequestContext) (callee : ServiceName) {r : ServiceRequest}
    (named : r.service = callee.name) :
    (callService s context r).Modest fun response => isShort response.status := by
  unfold callService
  split
  · exact .fail (isShort_downstream _)
  · exact .fail (isShort_crash _)
  · rename_i call log prepared
    refine .bind (.ofTask (Modest.logAll _)) fun _ _ => .bind (.ofTask (Modest.ask (by simp))) fun ending ordinary => ?_
    have counted : Task.Within Contract.modest (fun _ => True)
        (Task.record (.propagatedCall r.service (concludeCall s.config.downstreamTimeoutMs r call ending).counted.name
          context.bearer?.isSome) : Task ServiceState Unit) := by
      refine (Task.Within.ask (c := Contract.modest) fun e same => ?_).mono fun _ _ => trivial
      cases same
      rw [named]
      exact ⟨callee, _, _, rfl⟩
    refine .bind (.ofTask counted) fun _ _ => .bind (.ofTask (Modest.logAll _)) fun _ _ => ?_
    split
    · rename_i response concluded
      refine .pure ?_
      -- Only a reply makes a response, and the response keeps its status.
      unfold concludeCall at concluded
      split at concluded
      · rename_i reply body read
        cases concluded
        obtain ⟨found, there, same⟩ := Option.bind_eq_some_iff.1 read
        obtain ⟨body', -, same⟩ := Option.map_eq_some_iff.1 same
        cases same
        exact ordinary reply there
      · cases concluded
    · exact .fail (isShort_downstream _)

theorem modest_fetchResource {α : Type} (s : Service) (context : RequestContext) (callee : ServiceName)
    (path : String) (shape : Json → Option α) :
    (fetchResource s context callee.name path shape).Modest fun _ => True := by
  unfold fetchResource
  refine .bind (modest_callService s context callee rfl) fun response _ => ?_
  split
  · exact .pure trivial
  · exact .fail (isShort_downstream _)

theorem modest_relayHandler (s : Service) (i : Inbound) : (relayHandler s i).Modest Answer.IsShort := by
  unfold relayHandler
  dsimp only
  split
  · exact .fail (isShort_notFound _ _)
  · rename_i target mapped
    exact .bind (modest_callService s i.context target rfl) fun response short =>
      .bind (.log _) fun _ _ => .pure short

theorem modest_fetchOffer (s : Service) (context : RequestContext) (productId : Number) :
    (fetchOffer s context productId).Modest fun _ => True := by
  refine .tryCatch (modest_fetchResource s context .productService _ _) fun f short => ?_
  split
  · split
    · exact .fail (isShort_notFound _ _)
    · exact .fail short
  · exact .fail short

theorem modest_createOrderHandler (s : Service) (i : Inbound) :
    (createOrderHandler s i).Modest Answer.IsShort := by
  unfold createOrderHandler
  split
  · exact modest_invalidAnswer i _ _
  · refine .bind (modest_fetchResource s i.context .userService _ _) fun username _ => ?_
    refine .bind (modest_fetchOffer s i.context _) fun offer _ => ?_
    split
    · rename_i e refused
      exact .fail (isShort_placeOrder refused)
    · refine .bind (.ofTask Modest.time) fun now _ => .bind .modifyGet fun placed _ => ?_
      split
      · exact .fail (isShort_crash _)
      · exact .bind (.log _) fun _ _ => .pure (isShort_created _)

/-- A probe answers or fails under a short status. -/
theorem endsShort_probe (p : Probe) (i : Inbound) : EndsShort Answer.IsShort (p.answer i) := by
  have known : EndsShort Answer.IsShort (Probe.callerAnswer i) := by
    unfold Probe.callerAnswer
    cases known : i.principalOf with
    | ok q => exact isShort_ok _
    | error f => exact isShort_principalOf known
  cases p with
  | principal => exact known
  | any => exact known
  | context => exact isShort_ok _
  | role => exact isShort_ok _
  | error => exact isShort_crash _

/-- **Every handler counts nothing but calls,** and answers under a short status. -/
theorem modest_handler (e : Endpoint) (s : Service) (i : Inbound) : (e.handler s i).Modest Answer.IsShort := by
  cases e with
  | health => exact modest_healthHandler s i
  | ready => exact modest_readyHandler s i
  | metrics => exact modest_metricsHandler s i
  | relay => exact modest_relayHandler s i
  | me => exact modest_meHandler s i
  | adminOnly => exact .bind (modest_caller i) fun _ _ => .pure (isShort_ok _)
  | jwtInfo => exact .pure (isShort_ok _)
  | user => exact modest_userHandler s i
  | createUser => exact modest_createUserHandler s i
  | listProducts => exact modest_listProductsHandler s i
  | getProduct => exact modest_getProductHandler s i
  | createProduct => exact modest_createProductHandler s i
  | updateProduct => exact modest_updateProductHandler s i
  | deleteProduct => exact modest_deleteProductHandler s i
  | listOrders => exact modest_listOrdersHandler s i
  | getOrder => exact modest_getOrderHandler s i
  | createOrder => exact modest_createOrderHandler s i
  | probe p =>
    have short := endsShort_probe p i
    unfold Endpoint.handler
    dsimp only
    split
    · rename_i a answered
      rw [answered] at short
      exact .pure short
    · rename_i f failed
      rw [failed] at short
      exact .fail short

/-! ### The way of a request -/

/-- What can be sent, as far as its status goes. -/
abbrev DraftEnding : Except Fault Draft → Prop := EndsShort fun d => isShort d.status

theorem modest_requestId (r : Request) :
    Task.Within Contract.modest (fun _ => True) (requestId r : Task ServiceState String) := by
  unfold requestId
  split
  · exact .pure trivial
  · exact .bind (Modest.ask (by simp)) fun _ _ => .pure trivial

/-- **What is behind the gate** counts nothing but calls. -/
theorem modest_handle (s : Service) (m : Option Match) (r : Request) (context : RequestContext) :
    Task.Within Contract.modest DraftEnding (handle s m r context) := by
  unfold handle
  split
  · rename_i f unread
    exact .pure (isShort_body f)
  · split
    · exact .bind Modest.time fun _ _ => .pure (by decide : 404 < 1000)
    · refine .bind (modest_handler _ s _) fun result ended => .pure ?_
      cases result with
      | ok a => exact ended
      | error f => exact ended

/-- A draft goes out under its own status. -/
theorem status_of_attempt {o : Outlet} {d : Draft} {reply : Reply} (sent : o.attempt d = .ok reply) :
    reply.status = d.status := by
  unfold Outlet.attempt at sent
  split at sent
  · cases sent
  · dsimp only at sent
    split at sent
    · cases sent
    · cases sent
      rfl

/-- A fault is told under the status of its report, at whichever attempt. -/
theorem modest_sendFault (o : Outlet) (r : Request) {f : Fault} (kept written : List (String × String))
    (short : isShort f.report.status) :
    Task.Within Contract.modest (fun reply => isShort reply.status) (o.sendFault r f kept written) := by
  unfold Outlet.sendFault
  refine .bind (Modest.logAll _) fun _ _ => .bind Modest.time fun now _ => ?_
  dsimp only
  split
  · rename_i reply sent
    refine .pure ?_
    rw [status_of_attempt sent]
    exact short
  · unfold Outlet.sendPlainly
    refine .bind (Modest.log _) fun _ _ => ?_
    dsimp only
    split
    · rename_i reply sent
      refine .pure ?_
      rw [status_of_attempt sent]
      exact short
    · exact .bind (Modest.log _) fun _ _ => .pure short

/-- **What is sent has the status of what was to be sent,** or that of a fault on the way. -/
theorem modest_send (o : Outlet) (r : Request) {result : Except Fault Draft} (ends : DraftEnding result) :
    Task.Within Contract.modest (fun reply => isShort reply.status) (o.send r result) := by
  cases result with
  | error f => exact modest_sendFault o r [] [] ends
  | ok d =>
    unfold Outlet.send Outlet.sendDraft
    dsimp only
    split
    · rename_i reply sent
      refine .pure ?_
      rw [status_of_attempt sent]
      exact ends
    · exact modest_sendFault o r _ _ (isShort_crash _)

/-- **The gate does not break down,** and counts nothing. -/
theorem modest_approach (g : Gate) (requirement : Requirement) (r : Request) :
    Task.Within Contract.modest (fun ruling => ∀ why, ruling.decision ≠ .broken why)
      (approach g requirement r) := by
  have gate : ∀ context, Task.Within Contract.modest (fun result => ∀ why, result.1 ≠ .broken why)
      (g.task context requirement) := by
    intro context
    rcases Gate.task_cases (σ := ServiceState) g context requirement with
      ⟨result, ruled, unbroken⟩ | ⟨keyId, next, ruled, broken⟩
    · rw [ruled]
      exact .pure unbroken
    · rw [ruled]
      refine .bind (Modest.ask (by simp)) fun answer found => ?_
      refine .bind Modest.time fun now _ => .pure fun why broke => ?_
      rw [broken answer now why broke] at found
      exact not_keyAnswer_broken found
  refine .bind (modest_requestId r) fun id _ => .bind Modest.timer fun start _ => ?_
  exact .bind (gate (contextOf r id)) fun result unbroken => .pure unbroken

end BearerGate
