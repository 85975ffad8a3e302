import BearerGate.Proofs.Http.Headers
import BearerGate.Proofs.Service.Conduct

/-!
# The calls on a path

`callsOf` picks the calls on other services out of the turns of a path, each with the way it ended.  A task
that does nothing has none (`callsOf_of_idle`).  A handler's call is prepared first; if that fails nobody is
called, and if not there is exactly one call, and what comes of it is what that call is concluded with
(`callService_ends`).  Relaying is one such call (`relay_ends`).
-/

namespace BearerGate

variable {σ α : Type}

/-! ### Calls -/

/-- The call of a turn, with the way it ended. -/
def Turn.call? : Turn σ → Option (OutboundCall × CallEnd)
  | ⟨_, .call call, ending, _⟩ => some (call, ending)
  | _ => none

/-- **The calls on a path,** in order. -/
def callsOf (turns : List (Turn σ)) : List (OutboundCall × CallEnd) := turns.filterMap Turn.call?

@[simp]
theorem callsOf_append (first rest : List (Turn σ)) :
    callsOf (first ++ rest) = callsOf first ++ callsOf rest := List.filterMap_append

/-- What is asked on the path of a task that keeps to a contract is what the contract lets it ask. -/
theorem Step.Within.asks_of_mem {c : Contract σ} {post : α → Prop} {s : σ} {x y : Step σ α}
    {turns : List (Turn σ)} (path : x.Reaches turns y) (within : x.Within c post s)
    (answers : ∀ t ∈ turns, c.relies t.question t.answer) : ∀ t ∈ turns, c.asks t.question := by
  induction path generalizing s with
  | here x =>
    intro t member
    cases member
  | @turn t u q resume answer turns y rest ih =>
    have given : c.relies q answer := answers ⟨t, q, answer, u⟩ List.mem_cons_self
    have later := ih (within.2.2 answer given u) fun t member => answers t (List.mem_cons_of_mem _ member)
    intro t' member
    rcases List.mem_cons.1 member with rfl | there
    · exact within.2.1
    · exact later t' there

/-- **A task that does nothing calls nobody.** -/
theorem callsOf_of_idle {t : Task σ α} {post : α → Prop}
    (idle : t.Within (Contract.idle σ fun _ _ => True) post) {s : σ} {turns : List (Turn σ)} {y : Step σ α}
    (path : (t s).Reaches turns y) : callsOf turns = [] := by
  have asked := Step.Within.asks_of_mem path (idle s) fun _ _ => trivial
  refine List.filterMap_eq_nil_iff.2 fun turn member => ?_
  obtain ⟨left, question, answer, back⟩ := turn
  cases question with
  | call call => exact absurd rfl (asked _ member call)
  | _ => rfl

/-- Where two tasks after each other have ended, with the calls of both. -/
theorem callsOf_bind {β : Type} {t : Task σ α} {f : α → Task σ β} {s s' : σ} {turns : List (Turn σ)} {b : β}
    (path : ((t >>= f) s).Reaches turns (.done s' b)) :
    ∃ first rest u a, (t s).Reaches first (.done u a) ∧ (f a u).Reaches rest (.done s' b) ∧
      turns = first ++ rest ∧ callsOf turns = callsOf first ++ callsOf rest := by
  rw [Task.bind_apply] at path
  obtain ⟨first, rest, u, a, rfl, before, after⟩ := Step.reaches_bind_done path
  exact ⟨first, rest, u, a, before, after, rfl, callsOf_append first rest⟩

/-- A task that does nothing before another has no part in the calls. -/
theorem callsOf_bind_idle {β : Type} {t : Task σ α} {post : α → Prop} {f : α → Task σ β} {s s' : σ}
    {turns : List (Turn σ)} {b : β} (idle : t.Within (Contract.idle σ fun _ _ => True) post)
    (path : ((t >>= f) s).Reaches turns (.done s' b)) :
    ∃ rest u a, post a ∧ (f a u).Reaches rest (.done s' b) ∧ callsOf turns = callsOf rest := by
  obtain ⟨first, rest, u, a, before, after, -, calls⟩ := callsOf_bind path
  have holds : post a := ((idle s).of_reaches before fun _ _ => trivial).2
  rw [callsOf_of_idle idle before, List.nil_append] at calls
  exact ⟨rest, u, a, holds, after, calls⟩

/-- A task that has ended at once. -/
theorem eq_of_reaches_pure {s s' : σ} {turns : List (Turn σ)} {a b : α}
    (path : ((pure a : Task σ α) s).Reaches turns (.done s' b)) : turns = [] ∧ a = b := by
  generalize ended : Step.done s' b = y at path
  cases path
  cases ended
  exact ⟨rfl, rfl⟩

/-- The turn of a task that is nothing but a question. -/
theorem turns_of_ask {s s' : σ} {turns : List (Turn σ)} {q : Ask} {answer : q.Answer}
    (path : ((Task.ask q : Task σ q.Answer) s).Reaches turns (.done s' answer)) :
    ∃ u v, turns = [⟨u, q, answer, v⟩] := by
  rcases path with _ | @⟨_, u, _, _, given, _, _, path⟩
  generalize ended : Step.done s' answer = y at path
  cases path
  cases ended
  exact ⟨_, _, rfl⟩

/-- The call of a task that is nothing but a call. -/
theorem callsOf_ask {s s' : σ} {turns : List (Turn σ)} {call : OutboundCall} {ending : CallEnd}
    (path : ((Task.ask (.call call) : Task σ CallEnd) s).Reaches turns (.done s' ending)) :
    callsOf turns = [(call, ending)] := by
  obtain ⟨u, v, rfl⟩ := turns_of_ask path
  rfl

/-! ### Records -/

/-- The event that a question records. -/
def Ask.recorded? : Ask → Option MetricEvent
  | .record e => some e
  | _ => none

/-- **What is recorded on some turns.** -/
def recordsOf (turns : List (Turn σ)) : List MetricEvent := turns.filterMap (·.question.recorded?)

theorem recordsOf_append (first rest : List (Turn σ)) :
    recordsOf (first ++ rest) = recordsOf first ++ recordsOf rest := List.filterMap_append

/-! ### Preparing a call -/

/-- Setting a header puts a value under its name. -/
theorem Headers.eq_put_of_set? {h h' : Headers} {name value : String} (set : h.set? name value = some h') :
    ∃ v, value? value = some v ∧ h' = h.put name v := by
  unfold set? at set
  split at set
  · obtain ⟨v, there, rfl⟩ := Option.map_eq_some_iff.1 set
    exact ⟨v, there, rfl⟩
  · cases set

/-- **Forwarding changes nothing but the token's own header.** -/
theorem forward_keeps {context : RequestContext} {call sent : OutboundCall} {log : List LogEntry}
    (forwarded : forward context call = some (sent, log)) :
    sent.url = call.url ∧ sent.method = call.method ∧ sent.body = call.body ∧
      ∀ name, Text.lower name ≠ "authorization" → sent.headers.get? name = call.headers.get? name := by
  have own : Text.lower "authorization" = "authorization" := by decide
  unfold forward at forwarded
  dsimp only at forwarded
  split at forwarded
  · obtain ⟨headers, set, same⟩ := Option.map_eq_some_iff.1 forwarded
    cases same
    obtain ⟨v, -, rfl⟩ := Headers.eq_put_of_set? set
    refine ⟨rfl, rfl, rfl, fun name other => ?_⟩
    rw [← own] at other
    rw [Headers.get?_put_of_ne _ _ other, Headers.get?_delete_of_ne _ other]
  · cases forwarded
    refine ⟨rfl, rfl, rfl, fun name other => ?_⟩
    rw [← own] at other
    exact Headers.get?_delete_of_ne _ other

/-- **What a call is prepared from:** one to the address below the base of its service, with the body that was asked
for as JSON, before the token is attached. -/
theorem exists_plain_of_prepareCall {registry : Registry} {context : RequestContext} {r : ServiceRequest}
    {call : OutboundCall} {log : List LogEntry} (prepared : prepareCall registry context r = .ok (call, log)) :
    ∃ base plain, registry.resolve? r.service = some base ∧ forward context plain = some (call, log) ∧
      joinUrl? base r.path = some plain.url ∧ plain.method = Unicode.toUpper r.method ∧
      plain.body = r.body.map Json.render ∧ plain.headers.Lowered ∧
      (r.body = none → callHeaders? context r.headers = some plain.headers) ∧
      (r.body.isSome = true → plain.headers.get? "content-type" = some "application/json") := by
  unfold prepareCall at prepared
  split at prepared
  · cases prepared
  rename_i base resolved
  dsimp only at prepared
  split at prepared
  · rename_i result built
    cases prepared
    obtain ⟨headers, accepted, built⟩ := Option.bind_eq_some_iff.1 built
    have lowered : headers.Lowered := Headers.lowered_of_built (Headers.built_of_ofPairs? accepted)
    split at built
    · rename_i filled
      obtain ⟨dressed, dressing, built⟩ := Option.bind_eq_some_iff.1 built
      obtain ⟨url, joined, forwarded⟩ := Option.bind_eq_some_iff.1 built
      obtain ⟨v, value, rfl⟩ := Headers.eq_put_of_set? dressing
      have kept : Headers.value? "application/json" = some "application/json" := by decide
      rw [kept] at value
      cases value
      refine ⟨base, _, resolved, forwarded, joined, rfl, rfl, Headers.lowered_put lowered _ _, ?_,
        fun _ => Headers.get?_put_self _ _ rfl⟩
      intro bodyless
      rw [bodyless] at filled
      cases filled
    · rename_i bodyless
      obtain ⟨dressed, dressing, built⟩ := Option.bind_eq_some_iff.1 built
      obtain ⟨url, joined, forwarded⟩ := Option.bind_eq_some_iff.1 built
      cases dressing
      exact ⟨base, _, resolved, forwarded, joined, rfl, rfl, lowered, fun _ => accepted,
        fun there => absurd there bodyless⟩
  · cases prepared

/-- **A prepared call** goes to the address below the base of its service, with the body that was asked for as
JSON. -/
theorem prepareCall_eq_ok {registry : Registry} {context : RequestContext} {r : ServiceRequest}
    {call : OutboundCall} {log : List LogEntry} (prepared : prepareCall registry context r = .ok (call, log)) :
    ∃ base, registry.resolve? r.service = some base ∧ joinUrl? base r.path = some call.url ∧
      call.body = r.body.map Json.render ∧
      (r.body.isSome = true → call.headers.get? "content-type" = some "application/json") := by
  obtain ⟨base, plain, resolved, forwarded, joined, -, body, -, -, typed⟩ := exists_plain_of_prepareCall prepared
  obtain ⟨url_eq, -, body_eq, others⟩ := forward_keeps forwarded
  refine ⟨base, resolved, by rw [url_eq, joined], body_eq.trans body, fun there => ?_⟩
  rw [others "content-type" (by decide)]
  exact typed there

/-- A header whose name is a name can be set to what may be a value. -/
theorem Headers.exists_set? (h : Headers) {name value : String} (named : isName name = true)
    (fine : (value? value).isSome = true) : ∃ h', h.set? name value = some h' := by
  obtain ⟨v, read⟩ := Option.isSome_iff_exists.1 fine
  exact ⟨h.put name v, by rw [set?, if_pos named, read, Option.map_some]⟩

/-- A token that may stand in a header can be forwarded. -/
theorem exists_forward {context : RequestContext} (call : OutboundCall)
    (bearer : ∀ token, context.bearer? = some token → (Headers.value? ("Bearer " ++ token)).isSome = true) :
    ∃ sent, forward context call = some sent := by
  have authorized : Headers.isName "authorization" = true := by decide
  unfold forward
  cases held : context.bearer? with
  | none => exact ⟨_, rfl⟩
  | some token =>
    obtain ⟨headers, set⟩ := Headers.exists_set? (call.headers.delete "authorization") authorized (bearer token held)
    exact ⟨_, by dsimp only; rw [set, Option.map_some]⟩

/-- **A call can be prepared** if its service is registered, its headers may be sent and its address can be
built. -/
theorem exists_prepareCall {registry : Registry} {context : RequestContext} {r : ServiceRequest} {base url : Url}
    {headers : Headers} (resolved : registry.resolve? r.service = some base)
    (dressed : callHeaders? context r.headers = some headers)
    (bearer : ∀ token, context.bearer? = some token → (Headers.value? ("Bearer " ++ token)).isSome = true)
    (joined : joinUrl? base r.path = some url) :
    ∃ call log, prepareCall registry context r = .ok (call, log) := by
  have named : Headers.isName "content-type" = true := by decide
  have fine : (Headers.value? "application/json").isSome = true := by decide
  obtain ⟨typed, typing⟩ := headers.exists_set? named fine
  obtain ⟨⟨call, log⟩, forwarded⟩ := exists_forward
    { url, method := Unicode.toUpper r.method
      headers := if r.body.isSome then typed else headers, body := r.body.map Json.render } bearer
  refine ⟨call, log, ?_⟩
  simp only [prepareCall, resolved, dressed, joined, typing, Option.bind_eq_bind, Option.bind_some]
  by_cases filled : r.body.isSome = true
  · rw [if_pos filled] at forwarded
    simp only [if_pos filled, forwarded]
  · rw [if_neg filled] at forwarded
    simp only [if_neg filled, forwarded]

/-- A call that cannot be built, though its headers may be sent, has no address. -/
theorem exists_unjoined {registry : Registry} {context : RequestContext} {r : ServiceRequest} {headers : Headers}
    (failed : prepareCall registry context r = .error .unbuildable)
    (dressed : callHeaders? context r.headers = some headers)
    (bearer : ∀ token, context.bearer? = some token → (Headers.value? ("Bearer " ++ token)).isSome = true) :
    ∃ base, registry.resolve? r.service = some base ∧ joinUrl? base r.path = none := by
  cases resolved : registry.resolve? r.service with
  | none =>
    rw [prepareCall, resolved] at failed
    cases failed
  | some base =>
    refine ⟨base, rfl, ?_⟩
    cases joined : joinUrl? base r.path with
    | none => rfl
    | some url =>
      obtain ⟨call, log, prepared⟩ := exists_prepareCall resolved dressed bearer joined
      rw [prepared] at failed
      cases failed

/-! ### Calling another service -/

/-- What a call ends with that could not be prepared. -/
def CallFault.fault : CallFault → Fault
  | unknownService service => .downstream { service, message := Registry.notFoundMessage service }
  | unbuildable => .crash "The call cannot be built"

section Calling

variable {s : Service} {context : RequestContext} {r : ServiceRequest} {st st' : ServiceState}
  {turns : List (Turn ServiceState)}

theorem callService_run_of_error {fault : CallFault} (failed : prepareCall s.registry context r = .error fault) :
    (callService s context r).run = pure (.error fault.fault) := by
  unfold callService
  rw [failed]
  cases fault <;> rfl

/-- **A call that is prepared is made once,** and concluded with the way it ended. -/
theorem callService_run_of_ok {call : OutboundCall} {log : List LogEntry}
    (prepared : prepareCall s.registry context r = .ok (call, log)) :
    (callService s context r).run = (do
      Task.logAll (log.map clientLog)
      let ending ← Task.ask (.call call)
      let concluded := concludeCall s.config.downstreamTimeoutMs r call ending
      Task.record (.propagatedCall r.service concluded.counted.name context.bearer?.isSome)
      Task.logAll (concluded.log.map clientLog)
      pure (concluded.result.mapError .downstream)) := by
  unfold callService
  rw [prepared]
  simp only [Handling.ofTask, ExceptT.run_bind, ExceptT.run_lift, map_eq_pure_bind, bind_assoc, pure_bind]
  congr 1
  funext _
  congr 1
  funext ending
  congr 1
  funext _
  congr 1
  funext _
  cases (concludeCall s.config.downstreamTimeoutMs r call ending).result <;> rfl

/-- **How a handler's call ends:** without any call if it could not be prepared, and otherwise after exactly
one. -/
theorem callService_ends {result : Except Fault ServiceResponse}
    (path : ((callService s context r).run st).Reaches turns (.done st' result)) :
    (∃ fault, prepareCall s.registry context r = .error fault ∧ callsOf turns = [] ∧
      result = .error fault.fault) ∨
    ∃ call log ending, prepareCall s.registry context r = .ok (call, log) ∧
      callsOf turns = [(call, ending)] ∧
      result = (concludeCall s.config.downstreamTimeoutMs r call ending).result.mapError .downstream := by
  have liberal := liberal_idle (σ := ServiceState) fun _ _ => True
  cases prepared : prepareCall s.registry context r with
  | error fault =>
    rw [callService_run_of_error prepared] at path
    obtain ⟨rfl, rfl⟩ := eq_of_reaches_pure path
    exact .inl ⟨fault, rfl, rfl, rfl⟩
  | ok built =>
    obtain ⟨call, log⟩ := built
    rw [callService_run_of_ok prepared] at path
    obtain ⟨turns₁, u₁, -, -, path, calls⟩ := callsOf_bind_idle (.logAll liberal _) path
    obtain ⟨asked, turns₂, u₂, ending, ask, path, -, calls₁⟩ := callsOf_bind path
    obtain ⟨turns₃, u₃, -, -, path, calls₂⟩ := callsOf_bind_idle (.record liberal _) path
    obtain ⟨turns₄, u₄, -, -, path, calls₃⟩ := callsOf_bind_idle (.logAll liberal _) path
    obtain ⟨rfl, rfl⟩ := eq_of_reaches_pure path
    refine .inr ⟨call, log, ending, rfl, ?_, rfl⟩
    rw [calls, calls₁, callsOf_ask ask, calls₂, calls₃]
    rfl

end Calling

/-! ### Relaying -/

/-- What a relayed request asks of the service that it is for. -/
def relayRequest (i : Inbound) (target : ServiceName) : ServiceRequest where
  service := target.name
  path := i.request.target
  method := i.request.method
  body := relayedBody i.body

section Relaying

variable {s : Service} {i : Inbound} {st st' : ServiceState} {turns : List (Turn ServiceState)}
  {result : Except Fault Answer}

theorem relayHandler_run {target : ServiceName}
    (mapped : Table.get? s.config.gatewayRoutes (segmentOf i.request.target) = some target) :
    (relayHandler s i).run = (do
      match ← (callService s i.context (relayRequest i target)).run with
      | .error fault => pure (.error fault)
      | .ok response =>
        Task.log (.make .debug "Relayed request"
          [("target", some (.string target.name)), ("status", some (.nat response.status))])
        pure (.ok (relayedAnswer response))) := by
  simp only [relayHandler, mapped, ExceptT.run_bind]
  congr 1
  funext answered
  cases answered with
  | error fault => rfl
  | ok response =>
    simp only [Handling.log, Handling.ofTask, ExceptT.run_lift, map_eq_pure_bind, bind_assoc, pure_bind]
    rfl

/-- **How relaying ends** for a segment that is mapped: without any call if it could not be prepared, and
otherwise after exactly one, with the answer that is passed back. -/
theorem relay_ends {target : ServiceName}
    (mapped : Table.get? s.config.gatewayRoutes (segmentOf i.request.target) = some target)
    (path : ((relayHandler s i).run st).Reaches turns (.done st' result)) :
    (∃ fault, prepareCall s.registry i.context (relayRequest i target) = .error fault ∧ callsOf turns = [] ∧
      result = .error fault.fault) ∨
    ∃ call log ending, prepareCall s.registry i.context (relayRequest i target) = .ok (call, log) ∧
      callsOf turns = [(call, ending)] ∧
      result = ((concludeCall s.config.downstreamTimeoutMs (relayRequest i target) call ending).result.mapError
        .downstream).map relayedAnswer := by
  have liberal := liberal_idle (σ := ServiceState) fun _ _ => True
  rw [relayHandler_run mapped] at path
  obtain ⟨called, rest, u, answered, before, after, -, calls⟩ := callsOf_bind path
  -- What follows the call only logs.
  have passed : callsOf rest = [] ∧ result = answered.map relayedAnswer := by
    cases answered with
    | error fault =>
      obtain ⟨rfl, rfl⟩ := eq_of_reaches_pure after
      exact ⟨rfl, rfl⟩
    | ok response =>
      obtain ⟨last, v, -, -, after, same⟩ := callsOf_bind_idle (.log liberal _) after
      obtain ⟨rfl, rfl⟩ := eq_of_reaches_pure after
      exact ⟨same, rfl⟩
  rw [passed.1, List.append_nil] at calls
  rcases callService_ends before with ⟨fault, failed, none_made, rfl⟩ | ⟨call, log, ending, prepared, made, rfl⟩
  · exact .inl ⟨fault, failed, calls.trans none_made, passed.2⟩
  · exact .inr ⟨call, log, ending, prepared, calls.trans made, passed.2⟩

/-- **A call that can be prepared is made.** -/
theorem exists_relay {target : ServiceName}
    (mapped : Table.get? s.config.gatewayRoutes (segmentOf i.request.target) = some target) {call : OutboundCall}
    {log : List LogEntry} (prepared : prepareCall s.registry i.context (relayRequest i target) = .ok (call, log))
    (st : ServiceState) : ∃ turns st' result ending,
      ((relayHandler s i).run st).Reaches turns (.done st' result) ∧ callsOf turns = [(call, ending)] := by
  obtain ⟨turns, st', result, path⟩ := Step.exists_done ((relayHandler s i).run st)
  rcases relay_ends mapped path with ⟨fault, failed, -, -⟩ | ⟨call', log', ending, prepared', made, -⟩
  · rw [prepared] at failed
    cases failed
  · rw [prepared] at prepared'
    cases prepared'
    exact ⟨turns, st', result, ending, path, made⟩

/-- A segment that is not mapped leads nowhere, and nobody is called. -/
theorem relay_ends_unmapped (unmapped : Table.get? s.config.gatewayRoutes (segmentOf i.request.target) = none)
    (path : ((relayHandler s i).run st).Reaches turns (.done st' result)) :
    callsOf turns = [] ∧
      result = .error (.http (.notFound "Route" ("/api/" ++ segmentOf i.request.target))) := by
  have fails : (relayHandler s i).run =
      pure (.error (.http (.notFound "Route" ("/api/" ++ segmentOf i.request.target)))) := by
    simp only [relayHandler, unmapped]
    rfl
  rw [fails] at path
  obtain ⟨rfl, rfl⟩ := eq_of_reaches_pure path
  exact ⟨rfl, rfl⟩

end Relaying

end BearerGate
