import BearerGate.Proofs.Service.Moves
import BearerGate.Proofs.Service.Relay

/-!
# How requests end

The end of a request for which the gate decides (`Ending`).  Either the gate turns it away, with an answer of its
own and nothing else done; or its handler has run, and then everything before and after the handler stands still
and calls nobody, the handler is given the token of the request itself, and what is sent is what came of it:
a JSON answer as it is, a fault under the status of its report.

This needs answers of a real world and headers as HTTP delivers them, as what is sent always does.
-/

namespace BearerGate

/-! ### What is sent -/

/-- The reply of a JSON answer without headers of its own. -/
def jsonReplyOf (o : Outlet) (status : Nat) (body : Json) : Reply where
  status
  headers := o.headers ++ [("content-type", jsonType)]
  text := if o.withholdsText then "" else body.render

/-- **A JSON answer** goes out at the first attempt. -/
theorem attempt_plain {o : Outlet} (fine : ∀ h ∈ o.headers, isReplyHeader h = true) {status : Nat}
    (content : status ≠ noContent) (body : Json) :
    o.attempt ⟨status, [], some (.json body)⟩ = .ok (jsonReplyOf o status body) := by
  have type : isReplyHeader ("content-type", jsonType) = true := by decide
  have sendable : badHeader? (o.headers ++ [("content-type", jsonType)]) = none := by
    refine badHeader?_eq_none fun h member => ?_
    rcases List.mem_append.1 member with own | typed
    · exact fine h own
    · rw [List.mem_singleton.1 typed]
      exact type
  have full : ({ status, payload := .json body } : Answer).fullHeaders o.withholdsText =
      [("content-type", jsonType)] := by
    rw [Answer.fullHeaders, if_neg fun none => content none.1]
    rfl
  simp only [Outlet.attempt, Answer.reply, full, sendable, content, or_false]
  rfl

section Sent

variable {s : Service} {m : Option Match} {r : Request} {ruling : Ruling} {u st : ServiceState}
  {turns : List (Turn ServiceState)} {reply : Reply}

/-- What is sent after an answer in JSON. -/
theorem reply_of_answered (deliverable : r.Deliverable)
    (id_fine : isReplyHeader ("x-request-id", ruling.id) = true) {status : Nat} (content : status ≠ noContent)
    {body : Json}
    (path : (depart s m r ruling (.ok (.ofAnswer (.ofStatus status body))) u).Reaches turns (.done st reply)) :
    reply = jsonReplyOf (s.outlet m r ruling.id) status body :=
  reply_of_depart (attempt_plain (isReplyHeader_outlet deliverable id_fine) content body) path

/-- Only from `HEAD` are texts withheld. -/
theorem head_of_withholdsText {id : String} (withheld : (s.outlet m r id).withholdsText = true) :
    r.method = "HEAD" :=
  of_decide_eq_true (Bool.and_eq_true_iff.1 withheld).2

/-- To `GET` texts are shown. -/
theorem shows_of_gets (gets : r.method = "GET") {id : String} : (s.outlet m r id).withholdsText = false := by
  refine Bool.eq_false_iff.2 fun withheld => ?_
  rw [head_of_withholdsText withheld] at gets
  exact absurd gets (by decide)

/-- What is sent after an answer in JSON to a request that has its text shown. -/
theorem told_of_answered (gets : r.method = "GET") (deliverable : r.Deliverable)
    (id_fine : isReplyHeader ("x-request-id", ruling.id) = true) {status : Nat} (content : status ≠ noContent)
    {body : Json}
    (sent : (depart s m r ruling ((Except.ok (.ofStatus status body)).map Draft.ofAnswer) u).Reaches turns
      (.done st reply)) : reply.status = status ∧ reply.text = body.render := by
  rw [reply_of_answered deliverable id_fine content sent, jsonReplyOf, shows_of_gets gets]
  exact ⟨rfl, rfl⟩

/-- At an instant every report has a body. -/
theorem ErrorReport.exists_body? (e : ErrorReport) (url : String) {now : Number}
    (shown : ((Instant.ofMillis now).text?).isSome = true) : ∃ body, e.body? url now = some body := by
  obtain ⟨text, told⟩ := Option.isSome_iff_exists.1 shown
  unfold ErrorReport.body? ErrorReport.bodyWith?
  rw [told]
  exact ⟨_, rfl⟩

/-- **A reply tells a report** about a request: under its status, with the body that it has at some time. -/
def Reply.Tells (reply : Reply) (report : ErrorReport) (r : Request) : Prop :=
  ∃ now body, report.body? r.target now = some body ∧ reply.status = report.status ∧
    (r.method ≠ "HEAD" → reply.text = body.render)

/-- What goes out at an outlet tells its report, where texts are withheld from `HEAD` only. -/
theorem tells_jsonReplyOf {o : Outlet} (honest : o.withholdsText = true → r.method = "HEAD") {report : ErrorReport}
    {now : Number} {body : Json} (told : report.body? r.target now = some body) :
    (jsonReplyOf o report.status body).Tells report r := by
  refine ⟨now, body, told, rfl, fun other => ?_⟩
  have shown : o.withholdsText = false := Bool.eq_false_iff.2 fun withheld => other (honest withheld)
  rw [jsonReplyOf, shown]
  rfl

/-- **A fault is told** as its report. -/
theorem within_sendFault_tells {σ : Type} {o : Outlet} (fine : ∀ h ∈ o.headers, isReplyHeader h = true)
    (honest : o.withholdsText = true → r.method = "HEAD") {f : Fault} (bare : f.headers r = [])
    (content : f.report.status ≠ noContent) :
    Task.Within (Contract.idle σ Real) (fun reply => reply.Tells f.report r) (o.sendFault r f [] []) := by
  unfold Outlet.sendFault
  refine .bind (.logAll (liberal_idle Real) _) fun _ _ => .bind (.time (liberal_idle Real)) fun now shown => ?_
  obtain ⟨body, made⟩ := f.report.exists_body? r.target shown
  have draft : Draft.ofReport f.report ([] ++ f.headers r) r now = ⟨f.report.status, [], some (.json body)⟩ := by
    unfold Draft.ofReport
    rw [made, bare]
    rfl
  dsimp only
  rw [draft, attempt_plain fine content body]
  exact .pure (tells_jsonReplyOf honest made)

/-- What is sent after a fault. -/
theorem tells_of_fault (deliverable : r.Deliverable)
    (id_fine : isReplyHeader ("x-request-id", ruling.id) = true) {f : Fault} (bare : f.headers r = [])
    (content : f.report.status ≠ noContent) (real : ∀ t ∈ turns, Real t.question t.answer)
    (path : (depart s m r ruling (.error f) u).Reaches turns (.done st reply)) : reply.Tells f.report r := by
  have told : Task.Within (Contract.idle ServiceState Real) (fun reply => reply.Tells f.report r)
      ((s.outlet m r ruling.id).send r (.error f)) :=
    within_sendFault_tells (isReplyHeader_outlet deliverable id_fine) head_of_withholdsText bare content
  exact ((within_depart (liberal_idle Real) told u).of_reaches path real).2

theorem status_of_fault (deliverable : r.Deliverable)
    (id_fine : isReplyHeader ("x-request-id", ruling.id) = true) {f : Fault} (bare : f.headers r = [])
    (content : f.report.status ≠ noContent) (real : ∀ t ∈ turns, Real t.question t.answer)
    (path : (depart s m r ruling (.error f) u).Reaches turns (.done st reply)) :
    reply.status = f.report.status := by
  obtain ⟨now, body, -, status, -⟩ := tells_of_fault deliverable id_fine bare content real path
  exact status

end Sent

/-! ### What a handler is given -/

/-- A request with `GET` has no body. -/
theorem readBody_of_gets {r : Request} (gets : r.method = "GET") : readBody r = .ok .null := by
  have bodyless : bodyType? r = none := by
    rw [bodyType?, gets]
    rfl
  rw [readBody, bodyless]

/-- The gate leaves the token and the id of a request as they are. -/
theorem within_gate_context {σ : Type} {relies : (q : Ask) → q.Answer → Prop} (g : Gate)
    (context : RequestContext) (requirement : Requirement) :
    Task.Within (Contract.idle σ relies)
      (fun result => result.2.token = context.token ∧ result.2.requestId = context.requestId)
      (g.task context requirement) := by
  have kept : ∀ v, (g.conclude context requirement v).2.token = context.token ∧
      (g.conclude context requirement v).2.requestId = context.requestId := by
    intro v
    unfold Gate.conclude
    split
    · exact ⟨rfl, rfl⟩
    · exact ⟨rfl, rfl⟩
    · dsimp only
      split <;> exact ⟨rfl, rfl⟩
  unfold Gate.task
  cases there : context.token with
  | none =>
    rw [Gate.run_of_no_token _ _ _ _ _ (.inl there)]
    exact .pure ⟨there, rfl⟩
  | some raw =>
    by_cases filled : raw = ""
    · rw [Gate.run_of_no_token _ _ _ _ _ (.inr (by rw [there, filled]))]
      exact .pure ⟨there, rfl⟩
    rw [there] at kept
    cases planned : g.validator.plan g.check raw with
    | settled v =>
      rw [Gate.run_of_settled _ _ _ _ _ there filled planned]
      exact .pure (kept v)
    | needsKey keyId resume =>
      rw [Gate.run_of_needsKey _ _ _ _ _ there filled planned]
      refine .bind (.ask (liberal_idle relies _ (by simp))) fun answer _ => ?_
      exact .bind (.time (liberal_idle relies)) fun now _ => .pure (kept _)

/-- **A handler is given the request's own token,** under the id that goes into the reply. -/
theorem within_approach_context {σ : Type} {relies : (q : Ask) → q.Answer → Prop} (g : Gate)
    (requirement : Requirement) (r : Request) :
    Task.Within (Contract.idle σ relies)
      (fun ruling => ruling.context.token = bearerToken? (r.header? "authorization") ∧
        ruling.context.requestId = ruling.id)
      (approach g requirement r) := by
  refine .bind (within_requestId (liberal_idle relies) r) fun id _ => ?_
  refine .bind (.timer (liberal_idle relies)) fun start _ => ?_
  refine .bind (within_gate_context g (contextOf r id) requirement) fun result kept => ?_
  exact .pure kept

/-! ### Endings -/

/-- **How a request ends for which the gate decides.** -/
inductive Ending (s : Service) (m : Option Match) (r : Request) (arrival : ServiceState)
    (turns : List (Turn ServiceState)) (last : ServiceState) (reply : Reply) : Prop
  /-- The gate has turned it away. -/
  | refused {cause : Rejection} (refusal : IsRefusal s m r cause reply)
      (unchanging : Unchanging (steps arrival turns last)) (uncalled : callsOf turns = [])
  /-- The gate has vouched for the caller, and the handler has run. -/
  | handled {caller : Principal} {ruling : Ruling} {front ran back : List (Turn ServiceState)}
      {u v : ServiceState} {result : Except Fault Draft} (parts : turns = front ++ (ran ++ back))
      (vouched : Vouched s.gate r (required m) front caller)
      (known : ∀ i : Inbound, i.context = ruling.context → i.principalOf = .ok caller)
      (token : ruling.context.token = bearerToken? (r.header? "authorization"))
      (numbered : ruling.context.requestId = ruling.id)
      (id_fine : isReplyHeader ("x-request-id", ruling.id) = true)
      (entry : Unchanging (steps arrival front u)) (uncalled : callsOf front = [])
      (path : (handle s m r ruling.context u).Reaches ran (.done v result))
      (sent : (depart s m r ruling result v).Reaches back (.done last reply))

/-- A path that does nothing has taken no part. -/
theorem idle_path {σ α : Type} {t : Task σ α} {post : α → Prop}
    (idle : t.Within (Contract.idle σ fun _ _ => True) post) {s u : σ} {turns : List (Turn σ)} {a : α}
    (path : (t s).Reaches turns (.done u a)) :
    Unchanging (steps s turns u) ∧ callsOf turns = [] ∧ post a :=
  ⟨unchanging_of_idle idle path fun _ _ => trivial, callsOf_of_idle idle path,
    ((idle s).of_reaches path fun _ _ => trivial).2⟩

/-- A task that has ended takes no more turns. -/
theorem eq_of_reaches_done {σ α : Type} {s s' : σ} {turns : List (Turn σ)} {a b : α}
    (path : (Step.done s a).Reaches turns (.done s' b)) : turns = [] ∧ s = s' ∧ a = b := by
  generalize ended : Step.done s' b = y at path
  cases path
  cases ended
  exact ⟨rfl, rfl, rfl⟩

/-- A task whose value is wrapped up takes the same turns. -/
theorem reaches_of_map {σ α β : Type} {t : Task σ α} {f : α → β} {s s' : σ} {turns : List (Turn σ)} {b : β}
    (path : ((f <$> t) s).Reaches turns (.done s' b)) :
    ∃ a, b = f a ∧ (t s).Reaches turns (.done s' a) := by
  rw [← bind_pure_comp, Task.bind_apply] at path
  obtain ⟨first, rest, u, a, rfl, way, ended⟩ := Step.reaches_bind_done path
  obtain ⟨rfl, rfl, rfl⟩ := eq_of_reaches_done ended
  rw [List.append_nil]
  exact ⟨a, rfl, way⟩

/-- **Every request for which the gate decides ends so.** -/
theorem ending_of_passage {s : Service} {m : Option Match} {r : Request} {arrival st : ServiceState}
    {turns : List (Turn ServiceState)} {reply : Option Reply}
    (passage : Passage s m r arrival turns (.done st reply))
    (real : ∀ t ∈ turns, Real t.question t.answer) (deliverable : r.Deliverable) :
    ∃ own, reply = some own ∧ Ending s m r arrival turns st own := by
  have liberal := liberal_idle (σ := ServiceState) fun _ _ => True
  generalize ended : Step.done st reply = y at passage
  have up : Task.Within (Contract.idle ServiceState Real) _ (approach s.gate (required m) r) :=
    within_approach s.gate (required m) r
  have quiet : Task.Within (Contract.idle ServiceState fun _ _ => True) _
      (approach s.gate (required m) r) := within_approach_context s.gate (required m) r
  cases passage with
  | undecided path => cases ended
  | @turnedAway before after st₁ ruling cause stage y ruled decided path =>
    subst ended
    have first : ∀ t ∈ before, Real t.question t.answer := fun t member => real t (List.mem_append_left after member)
    have rest : ∀ t ∈ after, Real t.question t.answer := fun t member => real t (List.mem_append_right before member)
    have id_fine := ((up arrival).of_reaches ruled first).2.1 deliverable
    have away : Task.Within (Contract.idle ServiceState Real)
        (fun reply => ∃ own, reply = some own ∧ IsRefusal s m r cause own)
        (some <$> turnAway s m r ruling cause stage) :=
      (within_turnAway s m r ruling cause stage).map fun own refusal =>
        ⟨own, rfl, refusal (fun now shown => shown) deliverable id_fine⟩
    have nothing : Task.Within (Contract.idle ServiceState fun _ _ => True) (fun _ => True)
        (some <$> turnAway s m r ruling cause stage) :=
      (within_turnAway s m r ruling cause stage).map fun _ _ => trivial
    obtain ⟨own, sent, refusal⟩ := ((away st₁).of_reaches path rest).2
    obtain ⟨entry, uncalled, -⟩ := idle_path quiet ruled
    obtain ⟨exit, uncalled', -⟩ := idle_path nothing path
    refine ⟨own, sent, .refused refusal (unchanging_append entry exit) ?_⟩
    rw [callsOf_append, uncalled, uncalled', List.append_nil]
  | @brokenDown before after st₁ ruling why y ruled decided path =>
    have first : ∀ t ∈ before, Real t.question t.answer := fun t member => real t (List.mem_append_left after member)
    exact absurd decided (((up arrival).of_reaches ruled first).2.2 not_real_broken why)
  | @admitted before after st₁ ruling claims caller y ruled decided vouched known path =>
    subst ended
    have first : ∀ t ∈ before, Real t.question t.answer := fun t member => real t (List.mem_append_left after member)
    have id_fine := ((up arrival).of_reaches ruled first).2.1 deliverable
    obtain ⟨entry, uncalled, token, numbered⟩ := idle_path quiet ruled
    obtain ⟨own, rfl, way⟩ := reaches_of_map path
    -- The way in is the record and the log; what follows is the handling and the sending.
    unfold letIn at way
    rw [Task.bind_apply] at way
    obtain ⟨recorded, turns₁, u₁, _, rfl, record, way⟩ := Step.reaches_bind_done way
    rw [Task.bind_apply] at way
    obtain ⟨logged, turns₂, u₂, _, rfl, log, way⟩ := Step.reaches_bind_done way
    rw [Task.bind_apply] at way
    obtain ⟨ran, back, v, result, rfl, handled, sent⟩ := Step.reaches_bind_done way
    obtain ⟨recording, unrecorded, -⟩ := idle_path (.record liberal _) record
    obtain ⟨logging, unlogged, -⟩ := idle_path (.log liberal _) log
    have parts : before ++ (recorded ++ (logged ++ (ran ++ back))) = (before ++ (recorded ++ logged)) ++ (ran ++ back) := by
      simp
    refine ⟨own, rfl, .handled parts (vouched.mono ⟨[], recorded ++ logged, by simp⟩) known token numbered id_fine
      (unchanging_append entry (unchanging_append recording logging)) ?_ handled sent⟩
    rw [callsOf_append, callsOf_append, uncalled, unrecorded, unlogged]
    rfl

/-- **A visit that has ended** at an endpoint for which the gate decides. -/
theorem Visit.ending {s : Service} {name : ServiceName} {v : Visit} {m : Option Match} {st : ServiceState}
    {reply : Option Reply} (travels : v.Travels s name.endpoints)
    (routed : routed? name.endpoints v.request = some m) (plain : v.request.method ≠ "OPTIONS")
    (access : accessOf m = .needs (required m)) (ended : v.standing = .done st reply)
    (real : ∀ t ∈ v.turns, Real t.question t.answer) (deliverable : v.request.Deliverable) :
    ∃ own, reply = some own ∧ Ending s m v.request v.arrival v.turns st own := by
  unfold Travels at travels
  rw [respond_of_routed routed plain, ended] at travels
  exact ending_of_passage (passage_of_reaches access travels) real deliverable

/-- **What the handling comes to:** the body cannot be read, or the handler runs on it. -/
theorem handled_cases {s : Service} {m : Match} {r : Request} {context : RequestContext} {u v : ServiceState}
    {turns : List (Turn ServiceState)} {result : Except Fault Draft}
    (path : (handle s (some m) r context u).Reaches turns (.done v result)) :
    (∃ f, readBody r = .error f ∧ turns = [] ∧ u = v ∧ result = .error (.unreadable f.status f.message)) ∨
      ∃ body answer, readBody r = .ok body ∧
        ((m.endpoint.handler s (inboundOf m r context body)).run u).Reaches turns (.done v answer) ∧
        result = answer.map Draft.ofAnswer := by
  rw [handle_eq] at path
  split at path
  · rename_i f unreadable
    obtain ⟨rfl, rfl, rfl⟩ := eq_of_reaches_done path
    exact .inl ⟨f, unreadable, rfl, rfl, rfl⟩
  · rename_i body read
    rw [bind_pure_comp] at path
    obtain ⟨answer, rfl, way⟩ := reaches_of_map path
    exact .inr ⟨body, answer, read, way, rfl⟩

/-! ### Let in, and not interrupted -/

section Undisturbed

variable {σ : Type} (answers : (q : Ask) → q.Answer)

/-- The ruling on a request that is let in with a token. -/
def admission (g : Gate) (r : Request) (t : Token) : Ruling :=
  let id := (r.filledHeader? "request-id").getD (numberedId (answers .requestNumber))
  let caller := t.claims.principal g.rolesSetting
  ⟨id, answers .timer, .authorized t.claims caller,
    { contextOf r id with claims := some t.claims, principal := some caller }⟩

variable {g : Gate} {requirement : Requirement} {r : Request} {raw keyId : String} {t : Token} {entry : KeyEntry}
  {answers}

/-- **A request with an accepted token** is let in with it. -/
theorem played_approach (own : bearerToken? (r.header? "authorization") = some raw) (written : Token.Written raw t)
    (found : answers (.key keyId) = .found entry)
    (accepted : Token.Accepted g.validator g.check t keyId entry (answers .time))
    (allowed : requirement.allows (t.claims.principal g.rolesSetting).roles = true) (s : σ) :
    (approach g requirement r s).played answers = (s, admission answers g r t) := by
  have numbered : (requestId r s).played answers =
      (s, (r.filledHeader? "request-id").getD (numberedId (answers .requestNumber))) := by
    unfold requestId
    cases r.filledHeader? "request-id" <;> rfl
  have planned : g.validator.plan g.check raw = .needsKey keyId (g.validator.resumption g.check t entry.algorithm) :=
    Validator.plan_eq_needsKey_iff.2 ⟨t, _, written, accepted.toEligible, rfl⟩
  have ended := (Validator.resumption_eq_ok_iff accepted.toEligible).2 ⟨entry, found, accepted, rfl⟩
  have concluded : ∀ context : RequestContext,
      g.conclude context requirement
          (g.validator.resumption g.check t entry.algorithm (answers (.key keyId)) (answers .time)) =
        (.authorized t.claims (t.claims.principal g.rolesSetting),
          { context with claims := some t.claims, principal := some (t.claims.principal g.rolesSetting) }) := by
    intro context
    simp only [Gate.conclude, ended, allowed, if_true]
  unfold approach
  rw [Task.played_bind, numbered, Task.played_bind, Task.played_bind, Gate.task,
    Gate.run_of_needsKey _ _ _ _ _ own (Gate.ne_empty_of_written written) planned]
  exact congrArg (fun ended => (s, Ruling.mk _ _ ended.1 ended.2)) (concluded _)

variable {s : Service} {endpoints : List Endpoint} {m : Option Match}

/-- So it goes the way of the requests that are let in. -/
theorem played_respond (routed : routed? endpoints r = some m) (plain : r.method ≠ "OPTIONS")
    (access : accessOf m = .needs requirement) (own : bearerToken? (r.header? "authorization") = some raw)
    (written : Token.Written raw t) (found : answers (.key keyId) = .found entry)
    (accepted : Token.Accepted s.gate.validator s.gate.check t keyId entry (answers .time))
    (allowed : requirement.allows (t.claims.principal s.gate.rolesSetting).roles = true) (st : ServiceState) :
    (respond s endpoints r st).played answers =
      ((some <$> letIn s m r (admission answers s.gate r t) (t.claims.principal s.gate.rolesSetting) : Task _ _)
        st).played answers := by
  rw [respond_of_routed routed plain, travel_eq access, map_bind, Task.played_bind,
    played_approach own written found accepted allowed]
  rfl

end Undisturbed

end BearerGate
