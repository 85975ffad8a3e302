import BearerGate.Proofs.Metrics.Recording
import BearerGate.Proofs.Service.Placing
import BearerGate.Service.Transport

/-!
# One call, one report

A request to another service that can be built is either for a service without an address, and then nothing
happens, or it is made once and reported once.  What it is reported as, and what is handed back, depends on the
way the call has ended and on nothing else; `Reported` lists the five ways.  Two of them hand back an answer, the
other three a failure, and a failure has no status.  Who fetches a resource gets its data out of an answer of success
that has the shape asked for, and out of nothing else (`Expected`).

All of this is said twice: of a session of calls on a scripted service (`SentOnce`), and of the way of a
handler, whatever the world answers there (`CalledOnce`).  The two meet in `reported_concludeCall`.
-/

namespace BearerGate

/-! ### What is asked for -/

/-- **A request that can be built** for an address of its service: its headers and the caller's token may be sent,
and its path leads somewhere. -/
structure ServiceRequest.Constructible (r : ServiceRequest) (context : RequestContext) (base : Url) : Prop where
  dressed : ∃ headers, callHeaders? context r.headers = some headers
  bearer : ∀ token, context.bearer? = some token → (Headers.value? ("Bearer " ++ token)).isSome = true
  joined : ∃ url, joinUrl? base r.path = some url

/-- What comes of preparing a request that can be built. -/
theorem ServiceRequest.Constructible.exists_prepareCall {r : ServiceRequest} {context : RequestContext} {base : Url}
    {registry : Registry} (constructible : r.Constructible context base)
    (resolved : registry.resolve? r.service = some base) :
    ∃ call log, prepareCall registry context r = .ok (call, log) := by
  obtain ⟨headers, dressed⟩ := constructible.dressed
  obtain ⟨url, joined⟩ := constructible.joined
  exact BearerGate.exists_prepareCall resolved dressed constructible.bearer joined

theorem prepareCall_of_unregistered {registry : Registry} {r : ServiceRequest} (context : RequestContext)
    (unregistered : registry.resolve? r.service = none) :
    prepareCall registry context r = .error (.unknownService r.service) := by
  rw [prepareCall, unregistered]

/-- A token counts if it is not empty. -/
theorem isSome_bearer?_iff (context : RequestContext) :
    context.bearer?.isSome = true ↔ ∃ token, context.token = some token ∧ token ≠ "" := by
  unfold RequestContext.bearer?
  cases context.token with
  | none => simp
  | some token => by_cases empty : token = "" <;> simp [empty]

/-! ### What is reported -/

/-- **A call without a reply that can be read.** -/
def CallEnd.Unread (e : CallEnd) : Prop := ∀ reply, e.reply = some reply → readBody? reply = none

/-- A status of success. -/
abbrev Success (status : Nat) : Prop := 200 ≤ status ∧ status < 300

theorem isSuccess_eq_true_iff {status : Nat} : isSuccess status = true ↔ Success status := by
  rw [isSuccess, Bool.and_eq_true, decide_eq_true_iff, decide_eq_true_iff]

/-- **What a call is reported as and what is handed back,** by the way it has ended.  A reply that can be read
counts, whatever else has happened; without one, a timer that has run out counts before a request that was
given up. -/
inductive Reported (service : String) : CallEnd → CallResult → Except DownstreamError ServiceResponse → Prop
  | success {e : CallEnd} {reply : TransportReply} {body : Json} (replied : e.reply = some reply)
      (read : readBody? reply = some body) (success : Success reply.status) :
      Reported service e .ok (.ok ⟨reply.status, reply.headers, body⟩)
  | refusal {e : CallEnd} {reply : TransportReply} {body : Json} (replied : e.reply = some reply)
      (read : readBody? reply = some body) (refused : ¬Success reply.status) :
      Reported service e .error (.ok ⟨reply.status, reply.headers, body⟩)
  | timeout {e : CallEnd} {message : String} (unread : e.Unread) (late : e.timedOut = true) :
      Reported service e .timeout (.error { service, message, status := none })
  | cancelled {e : CallEnd} {message : String} (unread : e.Unread) (in_time : e.timedOut = false)
      (given_up : e.cancelled = true) : Reported service e .cancelled (.error { service, message, status := none })
  | failure {e : CallEnd} {message : String} (unread : e.Unread) (in_time : e.timedOut = false)
      (waited_for : e.cancelled = false) : Reported service e .error (.error { service, message, status := none })

/-- **Concluding a call** reports it by the way it has ended. -/
theorem reported_concludeCall (limit : Number) (r : ServiceRequest) (call : OutboundCall) (e : CallEnd) :
    Reported r.service e (concludeCall limit r call e).counted (concludeCall limit r call e).result := by
  unfold concludeCall
  cases read : e.reply.bind fun reply => (readBody? reply).map (reply, ·) with
  | some both =>
    obtain ⟨reply, replied, mapped⟩ := Option.bind_eq_some_iff.1 read
    obtain ⟨body, parsed, rfl⟩ := Option.map_eq_some_iff.1 mapped
    dsimp only
    by_cases success : isSuccess reply.status = true
    · rw [if_pos success]
      exact .success replied parsed (isSuccess_eq_true_iff.1 success)
    · rw [if_neg success]
      exact .refusal replied parsed fun good => success (isSuccess_eq_true_iff.2 good)
  | none =>
    have unread : e.Unread := by
      intro reply replied
      rw [replied, Option.bind_some, Option.map_eq_none_iff] at read
      exact read
    dsimp only [failureResult]
    cases late : e.timedOut with
    | true => exact .timeout unread late
    | false =>
      cases given_up : e.cancelled with
      | true => exact .cancelled unread late given_up
      | false => exact .failure unread late given_up

/-- **What a fetch of a resource gets** out of a call: data of the shape asked for out of an answer of success,
or else a failure under the status of the answer, if there is one. -/
inductive Expected {α : Type} (service : String) (shape : Json → Option α) :
    Except DownstreamError ServiceResponse → Except DownstreamError α → Prop
  | data {response : ServiceResponse} {data : α} (success : Success response.status)
      (fits : shape response.body = some data) : Expected service shape (.ok response) (.ok data)
  | unfit {response : ServiceResponse} {message : String}
      (nothing : ¬(Success response.status ∧ (shape response.body).isSome = true)) :
      Expected service shape (.ok response) (.error { service, message, status := some response.status })
  | unanswered {cause : DownstreamError} : Expected service shape (.error cause) (.error cause)

theorem expected_expectShape {α : Type} (service : String) (shape : Json → Option α)
    (result : Except DownstreamError ServiceResponse) :
    Expected service shape result (result.bind (expectShape service shape)) := by
  cases result with
  | error cause => exact .unanswered
  | ok response =>
    dsimp only [Except.bind, expectShape]
    by_cases success : isSuccess response.status = true
    · rw [if_pos success]
      cases shaped : shape response.body with
      | some data => exact .data (isSuccess_eq_true_iff.1 success) shaped
      | none =>
        refine .unfit fun both => ?_
        rw [shaped] at both
        exact Bool.false_ne_true both.2
    · rw [if_neg success]
      exact .unfit fun both => success (isSuccess_eq_true_iff.2 both.1)

/-! ### In a session -/

/-- **A request in a session is made once and reported once,** or not at all if its service has no address. -/
structure ClientSession.SentOnce (s : ClientSession) (context : RequestContext) (cancelled : Bool)
    (r : ServiceRequest) (s' : ClientSession) (result : Except DownstreamError ServiceResponse) : Prop where
  unregistered : s.registry.resolve? r.service = none →
    s' = s ∧ ∃ message, result = .error { service := r.service, message, status := none }
  registered : ∀ base, s.registry.resolve? r.service = some base → ∃ call counted authenticated,
    s'.calls = s.calls ++ [call] ∧ s'.script = s.script.next.2 ∧
    Reported r.service (ResponseStep.meet s.script.next.1 cancelled) counted result ∧
    s.metrics.CountsAlso (.propagatedCall r.service counted.name authenticated) s'.metrics ∧
    (authenticated = true ↔ ∃ token, context.token = some token ∧ token ≠ "")

theorem ClientSession.sentOnce_request {s : ClientSession} {context : RequestContext} (cancelled : Bool)
    {r : ServiceRequest}
    (constructible : ∀ base, s.registry.resolve? r.service = some base → r.Constructible context base) :
    ∃ result, (s.request context cancelled r).2 = result.mapError .downstream ∧
      s.SentOnce context cancelled r (s.request context cancelled r).1 result := by
  cases resolved : s.registry.resolve? r.service with
  | none =>
    rw [request, prepareCall_of_unregistered context resolved]
    refine ⟨.error _, rfl, fun _ => ⟨rfl, _, rfl⟩, fun base there => ?_⟩
    rw [resolved] at there
    cases there
  | some base =>
    obtain ⟨call, log, prepared⟩ := (constructible base resolved).exists_prepareCall resolved
    rw [request, prepared]
    refine ⟨_, rfl, fun missing => ?_, fun base _ => ?_⟩
    · rw [resolved] at missing
      cases missing
    · exact ⟨call, _, _, rfl, rfl, reported_concludeCall s.limit r call _, s.metrics.countsAlso_record _,
        isSome_bearer?_iff context⟩

/-! ### On a handler's way -/

section Handling

variable {s : Service} {context : RequestContext} {r : ServiceRequest} {st st' : ServiceState}
  {turns : List (Turn ServiceState)}

/-- **A handler's request is made once and reported once,** or not at all if its service has no address. -/
structure CalledOnce (s : Service) (context : RequestContext) (r : ServiceRequest) (turns : List (Turn ServiceState))
    (result : Except DownstreamError ServiceResponse) : Prop where
  unregistered : s.registry.resolve? r.service = none → callsOf turns = [] ∧ recordsOf turns = [] ∧
    ∃ message, result = .error { service := r.service, message, status := none }
  registered : ∀ base, s.registry.resolve? r.service = some base → ∃ call ending counted authenticated,
    callsOf turns = [(call, ending)] ∧ Reported r.service ending counted result ∧
    recordsOf turns = [.propagatedCall r.service counted.name authenticated] ∧
    (authenticated = true ↔ ∃ token, context.token = some token ∧ token ≠ "")

/-- Log entries record nothing. -/
theorem recordsOf_logAll {es : List LogEntry} {u : Unit}
    (path : ((Task.logAll es : Task ServiceState Unit) st).Reaches turns (.done st' u)) : recordsOf turns = [] := by
  let silent : Contract ServiceState :=
    { relies := fun _ _ => True, keeps := fun _ _ => True, asks := fun q => q.recorded? = none
      refl := fun _ => trivial, trans := fun _ _ => trivial }
  have within : Task.Within silent (fun _ => True) (Task.logAll es : Task ServiceState Unit) := by
    clear path
    induction es with
    | nil => exact .pure trivial
    | cons e es ih =>
      have logged : Task.Within silent (fun _ => True) (Task.log e : Task ServiceState Unit) :=
        Task.Within.ask (c := silent) rfl
      exact logged.bind fun _ _ => ih
  exact List.filterMap_eq_nil_iff.2 (Step.Within.asks_of_mem path (within st) fun _ _ => trivial)

theorem calledOnce_of_path {answered : Except Fault ServiceResponse}
    (constructible : ∀ base, s.registry.resolve? r.service = some base → r.Constructible context base)
    (path : ((callService s context r).run st).Reaches turns (.done st' answered)) :
    ∃ result, answered = result.mapError .downstream ∧ CalledOnce s context r turns result := by
  cases resolved : s.registry.resolve? r.service with
  | none =>
    rw [callService_run_of_error (prepareCall_of_unregistered context resolved)] at path
    obtain ⟨rfl, rfl⟩ := eq_of_reaches_pure path
    refine ⟨.error _, rfl, fun _ => ⟨rfl, rfl, _, rfl⟩, fun base there => ?_⟩
    rw [resolved] at there
    cases there
  | some base =>
    obtain ⟨call, log, prepared⟩ := (constructible base resolved).exists_prepareCall resolved
    rw [callService_run_of_ok prepared] at path
    have liberal := liberal_idle (σ := ServiceState) fun _ _ => True
    obtain ⟨logs, rest₁, u₁, _, logged, path₁, rfl, -⟩ := callsOf_bind path
    obtain ⟨asked, rest₂, u₂, ending, ask, path₂, rfl, -⟩ := callsOf_bind path₁
    obtain ⟨noted, rest₃, u₃, _, noting, path₃, rfl, -⟩ := callsOf_bind path₂
    obtain ⟨logs', rest₄, u₄, _, logged', path₄, rfl, -⟩ := callsOf_bind path₃
    obtain ⟨rfl, rfl⟩ := eq_of_reaches_pure path₄
    obtain ⟨v₁, w₁, rfl⟩ := turns_of_ask ask
    obtain ⟨v₂, w₂, rfl⟩ := turns_of_ask noting
    have calls := callsOf_of_idle (.logAll liberal _) logged
    have calls' := callsOf_of_idle (.logAll liberal _) logged'
    refine ⟨_, rfl, fun missing => ?_, fun _ _ => ⟨call, ending, _, context.bearer?.isSome, ?_,
      reported_concludeCall s.config.downstreamTimeoutMs r call ending, ?_, isSome_bearer?_iff context⟩⟩
    · rw [resolved] at missing
      cases missing
    · rw [callsOf_append, callsOf_append, callsOf_append, calls, List.append_nil, calls']
      rfl
    · rw [recordsOf_append, recordsOf_append, recordsOf_append, recordsOf_logAll logged, List.append_nil,
        recordsOf_logAll logged']
      rfl

end Handling

/-! ### Both -/

/-- A fault that wraps a failure stays around it, whatever is done with an answer. -/
theorem mapError_bind_mapError {ε ε' α β : Type} (wrap : ε → ε') (result : Except ε α) (next : α → Except ε β) :
    ((result.mapError wrap).bind fun a => (next a).mapError wrap) = (result.bind next).mapError wrap := by
  cases result <;> rfl

/-- **One call, one report:** a request that can be built is made once and reported once, in a session whatever its
script, and on a handler's way whatever the world answers.  Who fetches a resource with it gets what
can be expected of the answer. -/
theorem request_reported {registry : Registry} {context : RequestContext} {r : ServiceRequest}
    (constructible : ∀ base, registry.resolve? r.service = some base → r.Constructible context base) :
    (∀ (s : ClientSession) (cancelled : Bool), s.registry = registry → ∃ result,
      (s.request context cancelled r).2 = result.mapError .downstream ∧
      s.SentOnce context cancelled r (s.request context cancelled r).1 result ∧
      ∀ {α : Type} (shape : Json → Option α), ∃ data, Expected r.service shape result data ∧
        ((s.request context cancelled r).2.bind fun response =>
          (expectShape r.service shape response).mapError .downstream) = data.mapError .downstream) ∧
    ∀ (s : Service) (st st' : ServiceState) (turns : List (Turn ServiceState)), s.registry = registry →
      (∀ answered, ((callService s context r).run st).Reaches turns (.done st' answered) → ∃ result,
        answered = result.mapError .downstream ∧ CalledOnce s context r turns result) ∧
      ∀ {α : Type} (shape : Json → Option α) fetched, r = { service := r.service, path := r.path } →
        ((fetchResource s context r.service r.path shape).run st).Reaches turns (.done st' fetched) →
        ∃ result data, CalledOnce s context r turns result ∧ Expected r.service shape result data ∧
          fetched = data.mapError .downstream := by
  refine ⟨?_, ?_⟩
  · rintro s cancelled rfl
    obtain ⟨result, outcome, once⟩ := ClientSession.sentOnce_request cancelled constructible
    refine ⟨result, outcome, once, fun shape => ⟨_, expected_expectShape r.service shape result, ?_⟩⟩
    rw [outcome, mapError_bind_mapError]
  · rintro s st st' turns rfl
    refine ⟨fun answered path => calledOnce_of_path constructible path, fun shape fetched plain way => ?_⟩
    obtain ⟨u, answered, called, fetched_eq⟩ := callService_of_fetchResource way
    rw [← plain] at called
    obtain ⟨result, rfl, once⟩ := calledOnce_of_path constructible called
    refine ⟨result, _, once, expected_expectShape r.service shape result, ?_⟩
    rw [fetched_eq, mapError_bind_mapError]

/-- A session with a service that never answers. -/
private def silentSession : ClientSession where
  registry := ⟨[("user-service", { scheme := "http", host := some "users.test", path := .segments [""] })]⟩
  limit := 1000
  script := ⟨[{ reaction := .hang false }]⟩

private def meRequest : ServiceRequest where
  service := "user-service"
  path := "/api/users/me"

private def callerContext : RequestContext where
  requestId := "r"
  token := some "t"

/-- A request that is never answered is reported all the same. -/
theorem request_reported_of_silence : ∃ result,
    (silentSession.request callerContext false meRequest).2 = result.mapError .downstream ∧
      silentSession.SentOnce callerContext false meRequest (silentSession.request callerContext false meRequest).1
        result := by
  have constructible : ∀ base, silentSession.registry.resolve? meRequest.service = some base →
      meRequest.Constructible callerContext base := by
    intro base resolved
    cases resolved
    refine ⟨⟨⟨[("accept", "application/json"), ("x-request-id", "r")]⟩, by decide⟩, fun token held => ?_,
      ⟨{ scheme := "http", host := some "users.test", path := .segments ["api", "users", "me"] }, by decide +kernel⟩⟩
    cases held
    decide
  obtain ⟨result, outcome, once, -⟩ := (request_reported constructible).1 silentSession false rfl
  exact ⟨result, outcome, once⟩

end BearerGate
