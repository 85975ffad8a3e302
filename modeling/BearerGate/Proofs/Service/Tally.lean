import BearerGate.Proofs.Metrics.Recording
import BearerGate.Proofs.Service.Call
import BearerGate.Proofs.Service.FailClosed
import BearerGate.Proofs.Service.Modest

/-!
# What a request is counted as

The **tally** of a visit is what has been recorded on its turns.  A request that is not a preflight request is
counted twice, each time by itself: the gate's decision about it before its handler, and the request after its
reply.  What else is recorded are its calls.  So a tally is **opened** by the decision, if there is one, and
**closed** by the request; `Step.Tallies` follows it along a task, and `Visit.account` tells how far it has got
on any visit.
-/

namespace BearerGate

/-! ### Tallies -/

/-- **What becomes of a request at the gate.** -/
inductive Outcome where
  /-- The gate is not asked. -/
  | unasked
  | authorized
  | rejected (reason : Reason)
  deriving DecidableEq, Repr

/-- The event that records it. -/
def Outcome.event : Outcome → MetricEvent
  | unasked => .gateDecision "public" none
  | authorized => .gateDecision "authorized" none
  | rejected reason => .gateDecision "rejected" (some reason.name)

theorem Outcome.family_event (d : Outcome) : d.event.family = .decisions := by cases d <;> rfl

/-- **A tally with a decision in it,** or with none, and besides nothing but calls. -/
structure Opened (decision : Option Outcome) (es : List MetricEvent) : Prop where
  decisions : es.filter (·.family = .decisions) = (decision.map Outcome.event).toList
  calls : ∀ e ∈ es, e.family = .decisions ∨ e.OfCall

/-- **A tally that is closed:** behind what it was opened with the request has been counted. -/
structure Closed (decision : Option Outcome) (method route : String) (reply : Reply) (es : List MetricEvent) : Prop
  where
  short : isShort reply.status
  closing : ∃ opening duration, Opened decision opening ∧
    es = opening ++ [.request method route (.ofNat reply.status) duration]

theorem Opened.none : Opened none [] := ⟨rfl, by simp⟩

/-- A call goes into a tally without a change of its decision. -/
theorem Opened.call {decision : Option Outcome} {es calls : List MetricEvent} (opened : Opened decision es)
    (of_calls : ∀ e ∈ calls, e.OfCall) : Opened decision (es ++ calls) where
  decisions := by
    have undecided : calls.filter (·.family = .decisions) = [] := by
      rw [List.filter_eq_nil_iff]
      intro e there
      obtain ⟨callee, result, authenticated, rfl⟩ := of_calls e there
      simp [MetricEvent.family]
    rw [List.filter_append, opened.decisions, undecided, List.append_nil]
  calls := fun e there => (List.mem_append.1 there).elim (opened.calls e) fun call => .inr (of_calls e call)

/-- The decision goes into a tally that has none. -/
theorem Opened.decide {es : List MetricEvent} (opened : Opened .none es) (d : Outcome) :
    Opened (some d) (es ++ [d.event]) where
  decisions := by
    rw [List.filter_append, opened.decisions, List.filter_singleton, d.family_event]
    rfl
  calls := fun e there => (List.mem_append.1 there).elim (opened.calls e) fun own =>
    .inl (by rw [List.mem_singleton.1 own, d.family_event])

/-! ### Tallies along a task -/

variable {α β : Type}

/-- **A task's tally:** with what has been recorded before, the tally is open with one decision or another
whenever the task waits, and as it should be when the task ends, as long as the answers are ordinary. -/
def Step.Tallies (post : List MetricEvent → α → Prop) : List MetricEvent → Step ServiceState α → Prop
  | es, .done _ a => post es a
  | es, .ask _ q resume => (∃ decision, Opened decision es) ∧
    ∀ answer, Ordinary q answer → ∀ st, Tallies post (es ++ q.recorded?.toList) (resume answer st)

/-- A task's tally, wherever it begins. -/
def Task.Tallies (post : List MetricEvent → α → Prop) (es : List MetricEvent) (t : Task ServiceState α) : Prop :=
  ∀ st, (t st).Tallies post es

namespace Step.Tallies

variable {post : List MetricEvent → α → Prop} {es : List MetricEvent}

theorem bind {after : List MetricEvent → β → Prop} {f : α → ServiceState → Step ServiceState β}
    (next : ∀ es a, post es a → Task.Tallies after es (f a)) {x : Step ServiceState α} (tallies : x.Tallies post es) :
    (x.bind f).Tallies after es := by
  induction x generalizing es with
  | done st a => exact next es a tallies st
  | ask st q resume ih =>
    exact ⟨tallies.1, fun answer ordinary st' => ih answer st' (tallies.2 answer ordinary st')⟩

/-- **A task that counts nothing but calls** leaves the decision of its tally as it is. -/
theorem of_within {fine : α → Prop} {decision : Option Outcome} {st : ServiceState} {x : Step ServiceState α}
    (opened : Opened decision es) (within : x.Within Contract.modest fine st) :
    x.Tallies (fun es' a => Opened decision es' ∧ fine a) es := by
  induction x generalizing es st with
  | done st' a => exact ⟨opened, within.2⟩
  | ask st' q resume ih =>
    refine ⟨⟨decision, opened⟩, fun answer ordinary u => ih answer u (opened.call ?_) (within.2.2 answer ordinary u)⟩
    intro e there
    refine within.2.1 e ?_
    cases q with
    | record e' =>
      cases List.mem_singleton.1 (show e ∈ [e'] from there)
      rfl
    | _ => cases there

/-- **Wherever a task gets,** its tally is as it should be there. -/
theorem of_reaches {x y : Step ServiceState α} {turns : List (Turn ServiceState)} (path : x.Reaches turns y)
    (tallies : x.Tallies post es) (ordinary : ∀ t ∈ turns, Ordinary t.question t.answer) :
    y.Tallies post (es ++ recordsOf turns) := by
  induction path generalizing es with
  | here x =>
    rw [recordsOf, List.filterMap_nil, List.append_nil]
    exact tallies
  | @turn st u q resume answer turns y rest ih =>
    have given : Ordinary q answer := ordinary ⟨st, q, answer, u⟩ List.mem_cons_self
    have later := ih (tallies.2 answer given u) fun t member => ordinary t (List.mem_cons_of_mem _ member)
    have same : recordsOf ((⟨st, q, answer, u⟩ : Turn ServiceState) :: turns) =
        q.recorded?.toList ++ recordsOf turns := by
      rw [recordsOf, List.filterMap_cons]
      cases q.recorded? <;> rfl
    rw [same, ← List.append_assoc]
    exact later

end Step.Tallies

namespace Task.Tallies

variable {post : List MetricEvent → α → Prop} {es : List MetricEvent}

theorem pure {a : α} (holds : post es a) : Task.Tallies post es (Pure.pure a : Task ServiceState α) := fun _ => holds

theorem bind {after : List MetricEvent → β → Prop} {t : Task ServiceState α} {f : α → Task ServiceState β}
    (first : t.Tallies post es) (next : ∀ es a, post es a → (f a).Tallies after es) :
    Task.Tallies after es (t >>= f) :=
  fun st => (first st).bind next

theorem map {after : List MetricEvent → β → Prop} {t : Task ServiceState α} {f : α → β} (tallies : t.Tallies post es)
    (holds : ∀ es a, post es a → after es (f a)) : Task.Tallies after es (f <$> t) := by
  rw [← bind_pure_comp]
  exact tallies.bind fun es a there => .pure (holds es a there)

theorem of_within {fine : α → Prop} {decision : Option Outcome} {t : Task ServiceState α}
    (opened : Opened decision es) (within : t.Within Contract.modest fine) :
    t.Tallies (fun es' a => Opened decision es' ∧ fine a) es :=
  fun st => .of_within opened (within st)

theorem record {decision : Option Outcome} (opened : Opened decision es) (e : MetricEvent) :
    Task.Tallies (fun es' _ => es' = es ++ [e]) es (Task.record e : Task ServiceState Unit) :=
  fun _ => ⟨⟨decision, opened⟩, fun _ _ _ => rfl⟩

end Task.Tallies

/-! ### The parts of the way -/

section Parts

variable {decision : Option Outcome} {es : List MetricEvent}

/-- **The end of every way:** what is sent is counted, and so the tally is closed. -/
theorem tallies_end (opened : Opened decision es) (o : Outlet) (r : Request) (method route : String)
    {result : Except Fault Draft} (ends : DraftEnding result) (start : Int) :
    Task.Tallies (fun es' reply => Closed decision method route reply es') es
      (do
        let reply ← o.send r result
        let stop ← Task.timer
        countRequest method route reply.status (durationBetween start stop)
        pure reply) := by
  refine .bind (.of_within opened (modest_send o r ends)) fun es₁ reply sent => ?_
  refine .bind (.of_within sent.1 Modest.timer) fun es₂ stop timed => ?_
  refine .bind (.record timed.1 _) fun es₃ _ counted => .pure ?_
  exact ⟨sent.2, es₂, _, timed.1, counted⟩

theorem tallies_depart (opened : Opened decision es) (s : Service) (m : Option Match) (r : Request) (ruling : Ruling)
    {result : Except Fault Draft} (ends : DraftEnding result) :
    Task.Tallies (fun es' reply => Closed decision r.method (routeLabel m) reply es') es (depart s m r ruling result) :=
  tallies_end opened _ r _ _ ends _

/-- **A request that is turned away** is counted as rejected for its reason. -/
theorem tallies_turnAway (opened : Opened none es) (s : Service) (m : Option Match) (r : Request) (ruling : Ruling)
    (cause : Rejection) (last : Stage) :
    Task.Tallies
      (fun es' reply => Closed (some (.rejected cause.reason)) r.method (routeLabel m) reply es') es
      (turnAway s m r ruling cause last) := by
  unfold turnAway
  refine .bind (.record opened _) fun es₁ _ recorded => ?_
  have rejected : Opened (some (.rejected cause.reason)) es₁ := by
    rw [recorded]
    exact opened.decide (.rejected cause.reason)
  refine .bind (.of_within rejected (Modest.log _)) fun es₂ _ logged => ?_
  refine .bind (.of_within logged.1 Modest.time) fun es₃ now told => ?_
  exact tallies_depart told.1 s m r ruling (isShort_reason cause.reason)

/-- **A request that is let in** is counted as authorized. -/
theorem tallies_letIn (opened : Opened none es) (s : Service) (m : Option Match) (r : Request) (ruling : Ruling)
    (caller : Principal) :
    Task.Tallies (fun es' reply => Closed (some .authorized) r.method (routeLabel m) reply es') es
      (letIn s m r ruling caller) := by
  unfold letIn
  refine .bind (.record opened _) fun es₁ _ recorded => ?_
  have authorized : Opened (some .authorized) es₁ := by
    rw [recorded]
    exact opened.decide .authorized
  refine .bind (.of_within authorized (Modest.log _)) fun es₂ _ logged => ?_
  refine .bind (.of_within logged.1 (modest_handle s m r ruling.context)) fun es₃ result handled => ?_
  exact tallies_depart handled.1 s m r ruling handled.2

/-- **A request to an endpoint that is open** is counted as public. -/
theorem tallies_travel_open (opened : Opened none es) (s : Service) {m : Option Match} (r : Request)
    (is_open : accessOf m = .open) :
    Task.Tallies (fun es' reply => Closed (some .unasked) r.method (routeLabel m) reply es') es
      (travel s m r) := by
  unfold travel
  refine .bind (.of_within opened (modest_requestId r)) fun es₁ id numbered => ?_
  refine .bind (.of_within numbered.1 Modest.timer) fun es₂ start timed => ?_
  have answered : Task.Tallies (fun es' result => Opened (some .unasked) es' ∧ DraftEnding result) es₂
      (answerRequest s m r id) := by
    unfold answerRequest guard
    rw [is_open]
    dsimp only
    rw [bind_assoc]
    refine .bind (.record timed.1 _) fun es₃ _ recorded => ?_
    have is_public : Opened (some .unasked) es₃ := by
      rw [recorded]
      exact timed.1.decide .unasked
    rw [pure_bind]
    exact .of_within is_public (modest_handle s m r _)
  refine .bind answered fun es₃ result ended => ?_
  exact tallies_end ended.1 _ r _ _ ended.2 start

/-- **A preflight request** is counted without a decision. -/
theorem tallies_preflight (opened : Opened none es) (s : Service) (r : Request) :
    Task.Tallies (fun es' reply => Closed none r.method "*" reply es') es (preflight s r) := by
  unfold preflight
  refine .bind (.of_within opened (modest_requestId r)) fun es₁ id numbered => ?_
  have ends : DraftEnding (.ok (.ofAnswer (preflightAnswer r))) := by
    change isShort (preflightAnswer r).status
    unfold preflightAnswer
    split
    · exact (by decide : 204 < 1000)
    · exact (by decide : 400 < 1000)
  refine .bind (.of_within numbered.1 (modest_send _ r ends)) fun es₂ reply sent => ?_
  refine .bind (.record sent.1 _) fun es₃ _ counted => .pure ?_
  exact ⟨sent.2, es₂, _, sent.1, counted⟩

end Parts

/-! ### On a visit -/

/-- **The route that a request is counted under:** the pattern that it matches, or that it matches none.  Preflight
requests have a pattern of their own. -/
def Request.routeAmong (endpoints : List Endpoint) (r : Request) : String :=
  if r.method = "OPTIONS" then "*" else routeLabel (routed? endpoints r).join

namespace Visit

/-- **The gate has come to a ruling** on the request of a visit. -/
def Rules (s : Service) (endpoints : List Endpoint) (v : Visit) (ruling : Ruling) : Prop :=
  v.request.method ≠ "OPTIONS" ∧ ∃ m requirement before st, routed? endpoints v.request = some m ∧
    accessOf m = .needs requirement ∧ before <+: v.turns ∧
    (approach s.gate requirement v.request v.arrival).Reaches before (.done st ruling)

/-- **What becomes of the request of a visit at the gate:** nothing if it is a preflight request; else the gate is
not asked if the endpoint is open, and else it rules. -/
inductive Ruled (s : Service) (endpoints : List Endpoint) (v : Visit) : Option Outcome → Prop
  | preflight (options : v.request.method = "OPTIONS") : Ruled s endpoints v none
  | unasked {m : Option Match} (plain : v.request.method ≠ "OPTIONS") (routed : routed? endpoints v.request = some m)
      (is_open : accessOf m = .open) : Ruled s endpoints v (some .unasked)
  | authorized {ruling : Ruling} {claims : Claims} {caller : Principal} (rules : v.Rules s endpoints ruling)
      (decided : ruling.decision = .authorized claims caller) : Ruled s endpoints v (some .authorized)
  | rejected {ruling : Ruling} {cause : Rejection} {last : Stage} (rules : v.Rules s endpoints ruling)
      (decided : ruling.decision = .rejected cause last) : Ruled s endpoints v (some (.rejected cause.reason))

/-- **The account of a visit.**  While it waits, its tally is open.  Once it has ended there is a reply, and the tally is
closed, with what became of the request at the gate. -/
structure Account (s : Service) (endpoints : List Endpoint) (v : Visit) : Prop where
  waiting : ∀ st q resume, v.standing = .ask st q resume → ∃ decision, Opened decision (recordsOf v.turns)
  ended : ∀ st reply, v.standing = .done st reply → ∃ own decision, reply = some own ∧ v.Ruled s endpoints decision ∧
    Closed decision v.request.method (v.request.routeAmong endpoints) own (recordsOf v.turns)

variable {s : Service} {endpoints : List Endpoint} {v : Visit}

/-- A visit whose tally is as it should be has an account. -/
theorem Account.of_tallies {decision : Option Outcome} {es : List MetricEvent} (ruled : v.Ruled s endpoints decision)
    (tallies : v.standing.Tallies (fun es reply => ∃ own, reply = some own ∧
      Closed decision v.request.method (v.request.routeAmong endpoints) own es) es)
    (same : recordsOf v.turns = es) : v.Account s endpoints where
  waiting st q resume waits := by
    rw [waits] at tallies
    rw [same]
    exact tallies.1
  ended st reply ended := by
    rw [ended] at tallies
    obtain ⟨own, rfl, closed⟩ := tallies
    rw [same]
    exact ⟨own, decision, rfl, ruled, closed⟩

/-- **Every visit has its account,** wherever it is on its way. -/
theorem account_of_travels {name : ServiceName} (travels : v.Travels s name.endpoints)
    (ordinary : ∀ t ∈ v.turns, Ordinary t.question t.answer)
    (readable : (Target.segments? v.request.target).isSome = true) : v.Account s name.endpoints := by
  -- A way whose tally ends closed gives the account of what has been gone of it.
  have rest : ∀ {t : Task ServiceState Reply} {decision : Option Outcome} {first last : List (Turn ServiceState)}
      {st : ServiceState}, v.turns = first ++ last → v.Ruled s name.endpoints decision →
      Task.Tallies (fun es reply => Closed decision v.request.method (v.request.routeAmong name.endpoints) reply es)
        (recordsOf first) t →
      ((some <$> t : Task ServiceState (Option Reply)) st).Reaches last v.standing → v.Account s name.endpoints := by
    intro t decision first last st cut ruled tallies path
    have mapped : Task.Tallies (fun es reply => ∃ own, reply = some own ∧
        Closed decision v.request.method (v.request.routeAmong name.endpoints) own es) (recordsOf first) (some <$> t) :=
      tallies.map fun es own closed => ⟨own, rfl, closed⟩
    refine .of_tallies ruled (Step.Tallies.of_reaches path (mapped st) fun turn member => ordinary turn ?_) ?_
    · rw [cut]
      exact List.mem_append_right first member
    · rw [cut, recordsOf_append]
  by_cases options : v.request.method = "OPTIONS"
  · have way : respond s name.endpoints v.request = some <$> preflight s v.request := by
      rw [respond, if_pos options, if_neg]
      simp [Option.isSome_iff_ne_none.1 readable]
    rw [Travels, way] at travels
    refine rest (List.nil_append _).symm (.preflight options) ?_ travels
    rw [Request.routeAmong, if_pos options]
    exact tallies_preflight .none s v.request
  obtain ⟨m, routed⟩ := Option.isSome_iff_exists.1 (routed?_isSome_iff.2 readable)
  have route_eq : v.request.routeAmong name.endpoints = routeLabel m := by
    rw [Request.routeAmong, if_neg options, routed]
    rfl
  rw [route_eq] at rest
  rw [Travels, respond_of_routed routed options] at travels
  rcases accessOf_cases routed with ⟨open_one, rfl, -, is_open⟩ | access
  · exact rest (List.nil_append _).symm (.unasked options routed is_open)
      (tallies_travel_open .none s v.request is_open) travels
  -- Where the gate rules, the way is cut at its ruling; up to there nothing has been recorded.
  have up : Task.Tallies (fun es ruling => Opened none es ∧ ∀ why, ruling.decision ≠ .broken why) []
      (approach s.gate (required m) v.request) := .of_within .none (modest_approach s.gate (required m) v.request)
  have ruling_known : ∀ {before after : List (Turn ServiceState)} {st : ServiceState} {ruling : Ruling},
      v.turns = before ++ after → (approach s.gate (required m) v.request v.arrival).Reaches before (.done st ruling) →
      v.Rules s name.endpoints ruling ∧ Opened none (recordsOf before) ∧ ∀ why, ruling.decision ≠ .broken why := by
    intro before after st ruling cut ruled
    refine ⟨⟨options, m, required m, before, st, routed, access, ⟨after, cut.symm⟩, ruled⟩, ?_⟩
    refine Step.Tallies.of_reaches ruled (up v.arrival) fun turn member => ordinary turn ?_
    rw [cut]
    exact List.mem_append_left after member
  have passage := passage_of_reaches access travels
  generalize standing_eq : v.standing = standing at passage
  generalize turns_eq : v.turns = turns at passage
  cases passage with
  | undecided path =>
    refine ⟨fun st q resume waits => ?_, fun st reply ended => ?_⟩
    · have tallied := Step.Tallies.of_reaches path (up v.arrival) (turns_eq ▸ ordinary)
      rw [turns_eq]
      exact tallied.1
    · rw [standing_eq] at ended
      cases ended
  | turnedAway ruled decided path =>
    obtain ⟨rules, opened, -⟩ := ruling_known turns_eq ruled
    rw [← standing_eq] at path
    exact rest turns_eq (.rejected rules decided) (tallies_turnAway opened s m v.request _ _ _) path
  | brokenDown ruled decided path =>
    obtain ⟨-, -, unbroken⟩ := ruling_known turns_eq ruled
    exact absurd decided (unbroken _)
  | admitted ruled decided vouched known path =>
    obtain ⟨rules, opened, -⟩ := ruling_known turns_eq ruled
    rw [← standing_eq] at path
    exact rest turns_eq (.authorized rules decided) (tallies_letIn opened s m v.request _ _) path

end Visit

end BearerGate
