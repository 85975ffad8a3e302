import BearerGate.Http.Client
import BearerGate.Proofs.Service.Confinement
import BearerGate.Proofs.Service.Moves
import BearerGate.Proofs.Service.Tally

/-!
# What a service counts in a run

Whatever is recorded in a run is recorded by one of its visits, so the counters are those of all tallies together
(`perm_after`).  From the account of each visit then follows the account of the whole run (`Accounted`): every
request that has been answered is counted once, under its method, its route and its status; every request that is
not a preflight request is counted once for what became of it at the gate; and all labels are of a list that is
fixed by the endpoints (`knownLabels`).

Requests are those that are routed: HTTP knows their methods, and their targets can be read.
-/

namespace BearerGate

/-! ### Labels -/

/-- **The labels that a service can ever use.** -/
def knownLabels (endpoints : List Endpoint) : List (String × String) :=
  knownMethods.map ("method", ·) ++
    ("*" :: "unmatched" :: endpoints.map Endpoint.label).map ("route", ·) ++
    (List.range 1000).map (fun status => ("status", (Number.ofNat status).render)) ++
    ["public", "authorized", "rejected"].map ("outcome", ·) ++
    Reason.all.map (fun reason => ("reason", reason.name)) ++
    ServiceName.all.map (fun callee => ("service", callee.name)) ++
    ["ok", "error", "timeout", "cancelled"].map ("result", ·) ++
    ["true", "false"].map ("authenticated", ·)

/-- An event all of whose labels are known. -/
def MetricEvent.Known (endpoints : List Endpoint) (e : MetricEvent) : Prop := ∀ l ∈ e.labels, l ∈ knownLabels endpoints

/-- **A request that is routed:** HTTP knows its method, and its target can be read. -/
structure Request.Routed (r : Request) : Prop where
  method : r.method ∈ knownMethods
  target : (Target.segments? r.target).isSome = true

/-- Methods are written in upper case. -/
theorem toUpper_of_mem_knownMethods : ∀ method ∈ knownMethods, Unicode.toUpper method = method := by
  decide +kernel

section Known

variable {endpoints : List Endpoint}

theorem Outcome.known (d : Outcome) : d.event.Known endpoints := by
  intro l there
  cases d with
  | unasked => simp_all [event, MetricEvent.labels, knownLabels]
  | authorized => simp_all [event, MetricEvent.labels, knownLabels]
  | rejected reason =>
    have listed : reason ∈ Reason.all := by cases reason <;> decide
    simp only [event, MetricEvent.labels, Option.toList, List.map_cons, List.map_nil, List.mem_cons,
      List.not_mem_nil, or_false] at there
    rcases there with rfl | rfl
    · simp [knownLabels]
    · simp only [knownLabels, List.mem_append, List.mem_map]
      exact .inl (.inl (.inl (.inr ⟨_, listed, rfl⟩)))

theorem MetricEvent.OfCall.known {e : MetricEvent} (of_call : e.OfCall) : e.Known endpoints := by
  obtain ⟨callee, result, authenticated, rfl⟩ := of_call
  have listed : callee ∈ ServiceName.all := by cases callee <;> decide
  have named : result.name ∈ ["ok", "error", "timeout", "cancelled"] := by cases result <;> decide
  intro l there
  simp only [labels, List.mem_cons, List.not_mem_nil, or_false] at there
  rcases there with rfl | rfl | rfl
  · cases authenticated <;> simp [knownLabels]
  · simp only [knownLabels, List.mem_append, List.mem_map]
    exact .inl (.inr ⟨_, named, rfl⟩)
  · simp only [knownLabels, List.mem_append, List.mem_map]
    exact .inl (.inl (.inr ⟨_, listed, rfl⟩))

theorem Opened.known {decision : Option Outcome} {es : List MetricEvent} (opened : Opened decision es) :
    ∀ e ∈ es, e.Known endpoints := by
  intro e there
  rcases opened.calls e there with decides | of_call
  · have kept : e ∈ es.filter (·.family = .decisions) := List.mem_filter.2 ⟨there, decide_eq_true decides⟩
    rw [opened.decisions, Option.mem_toList, Option.map_eq_some_iff] at kept
    obtain ⟨d, -, rfl⟩ := kept
    exact d.known
  · exact of_call.known

/-- The route of a request is a pattern of an endpoint, or one of two others. -/
theorem routeAmong_mem (r : Request) :
    r.routeAmong endpoints ∈ "*" :: "unmatched" :: endpoints.map Endpoint.label := by
  unfold Request.routeAmong
  split
  · exact List.mem_cons_self
  · cases routed : routed? endpoints r with
    | none => exact List.mem_cons_of_mem _ List.mem_cons_self
    | some m =>
      cases m with
      | none => exact List.mem_cons_of_mem _ List.mem_cons_self
      | some m =>
        exact List.mem_cons_of_mem _ (List.mem_cons_of_mem _ (List.mem_map_of_mem (of_routed? routed).1))

theorem Closed.known {decision : Option Outcome} {r : Request} (routed : r.Routed) {reply : Reply}
    {es : List MetricEvent} (closed : Closed decision r.method (r.routeAmong endpoints) reply es) :
    ∀ e ∈ es, e.Known endpoints := by
  obtain ⟨opening, duration, opened, rfl⟩ := closed.closing
  intro e there
  rcases List.mem_append.1 there with before | last
  · exact opened.known e before
  rw [List.mem_singleton.1 last]
  intro l label
  simp only [MetricEvent.labels, List.mem_cons, List.not_mem_nil, or_false] at label
  simp only [knownLabels, List.mem_append, List.mem_map]
  rcases label with rfl | rfl | rfl
  · exact .inl (.inl (.inl (.inl (.inl (.inl (.inl ⟨_, routed.method, rfl⟩))))))
  · exact .inl (.inl (.inl (.inl (.inl (.inl (.inr ⟨_, routeAmong_mem r, rfl⟩))))))
  · exact .inl (.inl (.inl (.inl (.inl (.inr ⟨_, List.mem_range.2 closed.short, rfl⟩)))))

end Known

/-! ### Records of a run -/

/-- What has been recorded on a visit. -/
def Visit.tally (v : Visit) : List MetricEvent := recordsOf v.turns

namespace Site

/-- What an event makes a visit record. -/
def recorded? (site : Site) : Event → Option MetricEvent
  | .arrives _ => none
  | .answered n _ => (site.visits[n]?.bind (·.standing.question?)).bind Ask.recorded?

/-- **What is recorded in a run,** in order. -/
def records (s : Service) (endpoints : List Endpoint) (site : Site) : List Event → List MetricEvent
  | [] => []
  | e :: events => (site.recorded? e).toList ++ records s endpoints (site.next s endpoints e) events

/-- **The requests in an event** are of a kind. -/
def Event.Brings (p : Request → Prop) : Event → Prop
  | .arrives r => p r
  | .answered _ _ => True

/-- What grows in one place of a list. -/
theorem flatMap_set_perm {α β : Type} {f : α → List β} {xs : List α} {n : Nat} {x x' : α} {more : List β}
    (there : xs[n]? = some x) (grown : f x' = f x ++ more) : ((xs.set n x').flatMap f).Perm (xs.flatMap f ++ more) := by
  induction xs generalizing n with
  | nil => cases there
  | cons y xs ih =>
    cases n with
    | zero =>
      cases there
      rw [List.set_cons_zero, List.flatMap_cons, List.flatMap_cons, grown, List.append_assoc, List.append_assoc]
      exact List.perm_append_comm.append_left (f x)
    | succ n =>
      rw [List.set_cons_succ, List.flatMap_cons, List.flatMap_cons, List.append_assoc]
      exact (ih there).append_left (f y)

variable {s : Service} {endpoints : List Endpoint}

/-- An event adds what it makes a visit record to the tally of that visit. -/
theorem perm_next (site : Site) (e : Event) :
    ((site.next s endpoints e).visits.flatMap Visit.tally).Perm
      (site.visits.flatMap Visit.tally ++ (site.recorded? e).toList) := by
  cases e with
  | arrives r =>
    change ((site.visits ++ [Visit.begin s endpoints r site.state]).flatMap Visit.tally).Perm _
    rw [List.flatMap_append]
    exact List.Perm.refl _
  | answered n answer =>
    cases there : site.visits[n]? with
    | none =>
      rw [next, moved?, recorded?, there]
      simp
    | some v =>
      obtain ⟨r, arrival, turns, standing⟩ := v
      cases standing with
      | done st reply =>
        have still : site.moved? s endpoints (.answered n answer) = none := by
          rw [moved?, there]
          rfl
        rw [next, still, recorded?, there]
        simp [Step.question?]
      | ask left q resume =>
        have moved : site.moved? s endpoints (.answered n answer) =
            some ⟨r, arrival, turns ++ [⟨left, q, answer q, site.state⟩], resume (answer q) site.state⟩ := by
          rw [moved?, there]
          rfl
        rw [next, moved, recorded?, there]
        refine flatMap_set_perm there ?_
        rw [Visit.tally, Visit.tally, recordsOf_append, Option.bind_some, Step.question?, Option.bind_some]
        cases q <;> rfl

/-- **The records of a run** are those of all visits. -/
theorem perm_after (site : Site) (events : List Event) :
    ((site.after s endpoints events).visits.flatMap Visit.tally).Perm
      (site.visits.flatMap Visit.tally ++ site.records s endpoints events) := by
  induction events generalizing site with
  | nil =>
    rw [records, List.append_nil]
    exact List.Perm.refl _
  | cons e events ih =>
    rw [records, ← List.append_assoc]
    exact (ih (site.next s endpoints e)).trans ((perm_next site e).append_right _)

/-- The requests of all visits have come in the run. -/
theorem request_after {p : Request → Prop} {site : Site} (before : ∀ v ∈ site.visits, p v.request) {events : List Event}
    (brings : ∀ e ∈ events, e.Brings p) : ∀ v ∈ (site.after s endpoints events).visits, p v.request := by
  induction events generalizing site with
  | nil => exact before
  | cons e events ih =>
    refine ih ?_ fun e' member => brings e' (List.mem_cons_of_mem _ member)
    have here := brings e List.mem_cons_self
    unfold next
    cases moved : site.moved? s endpoints e with
    | none => exact before
    | some v =>
      intro u member
      cases e with
      | arrives r =>
        rcases List.mem_append.1 member with old | new
        · exact before u old
        · cases moved
          rw [List.mem_singleton.1 new]
          exact here
      | answered n answer =>
        rcases List.mem_or_eq_of_mem_set member with old | rfl
        · exact before u old
        · obtain ⟨old, there, resumes⟩ := Option.bind_eq_some_iff.1 moved
          have known := before old (List.mem_of_getElem? there)
          obtain ⟨r, arrival, turns, standing⟩ := old
          cases standing with
          | done st reply => cases resumes
          | ask left q resume =>
            cases resumes
            exact known

end Site

/-! ### The counts of a tally -/

open Metrics

/-- The text that a decision is counted under. -/
def Outcome.key (d : Outcome) : String := Labels.joined d.event.labels

section Counts

variable {decision : Option Outcome} {es : List MetricEvent} (key : String)

theorem Opened.countP_requests (opened : Opened decision es) : es.countP (CountedUnder .requests key) = 0 := by
  rw [List.countP_eq_zero]
  intro e there counted
  have family : Family.requests = e.family := (of_decide_eq_true counted).1
  rcases opened.calls e there with decides | ⟨callee, result, authenticated, rfl⟩
  · rw [decides] at family
    cases family
  · cases family

theorem Opened.countP_decisions (opened : Opened decision es) :
    es.countP (CountedUnder .decisions key) = if decision.map Outcome.key = some key then 1 else 0 := by
  have among : es.countP (CountedUnder .decisions key) =
      (es.filter (·.family = .decisions)).countP fun e => key = Labels.joined e.labels := by
    rw [List.countP_filter]
    refine List.countP_congr fun e _ => ?_
    rw [Bool.and_eq_true, decide_eq_true_iff, decide_eq_true_iff, decide_eq_true_iff]
    exact ⟨fun counted => ⟨counted.2, counted.1.symm⟩, fun both => ⟨both.2.symm, both.1⟩⟩
  rw [among, opened.decisions]
  cases decision with
  | none => rfl
  | some d =>
    rw [Option.map_some, Option.toList_some, List.countP_singleton]
    refine if_congr ?_ rfl rfl
    rw [decide_eq_true_iff, Option.map_some, Option.some_inj]
    exact eq_comm

end Counts

namespace Visit

/-- **A visit that has ended.** -/
def Ended (v : Visit) : Prop := ∃ st reply, v.standing = .done st reply

/-- **The text that a request is counted under** when it has been answered: its method in upper case, its route, and
the status of its reply. -/
def requestKey? (endpoints : List Endpoint) (v : Visit) : Option String :=
  match v.standing with
  | .done _ (some reply) =>
    some (Labels.joined [("method", Unicode.toUpper v.request.method), ("route", v.request.routeAmong endpoints),
      ("status", (Number.ofNat reply.status).render)])
  | _ => none

variable {s : Service} {endpoints : List Endpoint} {v : Visit}

/-- **A request is counted once** when it has been answered. -/
theorem Account.countP_requests (account : v.Account s endpoints) (routed : v.request.Routed) (key : String) :
    v.tally.countP (CountedUnder .requests key) = if v.requestKey? endpoints = some key then 1 else 0 := by
  unfold requestKey?
  cases standing : v.standing with
  | ask st q resume =>
    obtain ⟨decision, opened⟩ := account.waiting st q resume standing
    exact opened.countP_requests key
  | done st reply =>
    obtain ⟨own, decision, rfl, -, closed⟩ := account.ended st reply standing
    obtain ⟨opening, duration, opened, es_eq⟩ := closed.closing
    rw [tally, es_eq, List.countP_append, opened.countP_requests, Nat.zero_add, List.countP_singleton,
      toUpper_of_mem_knownMethods _ routed.method]
    refine if_congr ?_ rfl rfl
    rw [decide_eq_true_iff, Option.some_inj]
    exact ⟨fun counted => counted.2.symm, fun same => ⟨rfl, same.symm⟩⟩

/-- **A request is counted once for what becomes of it at the gate,** unless it is a preflight request. -/
theorem Account.exists_decision (account : v.Account s endpoints) : ∃ decision,
    (v.Ended → v.Ruled s endpoints decision) ∧ ∀ key, v.tally.countP (CountedUnder .decisions key) =
      if decision.map Outcome.key = some key then 1 else 0 := by
  cases standing : v.standing with
  | ask st q resume =>
    obtain ⟨decision, opened⟩ := account.waiting st q resume standing
    refine ⟨decision, fun ⟨st', reply, ended⟩ => ?_, opened.countP_decisions⟩
    rw [standing] at ended
    cases ended
  | done st reply =>
    obtain ⟨own, decision, -, ruled, closed⟩ := account.ended st reply standing
    obtain ⟨opening, duration, opened, es_eq⟩ := closed.closing
    refine ⟨decision, fun _ => ruled, fun key => ?_⟩
    rw [tally, es_eq, List.countP_append, opened.countP_decisions]
    simp [CountedUnder, MetricEvent.family]

theorem Account.known (account : v.Account s endpoints) (routed : v.request.Routed) :
    ∀ e ∈ v.tally, e.Known endpoints := by
  cases standing : v.standing with
  | ask st q resume =>
    obtain ⟨decision, opened⟩ := account.waiting st q resume standing
    exact opened.known
  | done st reply =>
    obtain ⟨own, decision, -, -, closed⟩ := account.ended st reply standing
    exact closed.known routed

end Visit

/-! ### The account of a run -/

namespace Site

/-- **The account of a run:** each answered request is counted once and has a reply, each request that has been
answered and is no preflight request is counted once for what became of it at the gate, and no label is
unknown. -/
structure Accounted (s : Service) (endpoints : List Endpoint) (site : Site) (es : List MetricEvent) : Prop where
  answered : ∀ v ∈ site.visits, v.Ended → (v.requestKey? endpoints).isSome = true
  requests : ∀ key, (recorded es).requests.get key = site.visits.countP fun v => v.requestKey? endpoints = some key
  decisions : ∃ decisions : List (Option Outcome),
    List.Forall₂ (fun v decision => v.Ended → v.Ruled s endpoints decision) site.visits decisions ∧
    ∀ key, (recorded es).gateDecisions.get key = decisions.countP fun decision => decision.map Outcome.key = some key
  known : ∀ e ∈ es, e.Known endpoints

/-- Counts that are those of the parts. -/
theorem countP_flatMap_eq {α β : Type} {f : α → List β} {p : β → Bool} {q : α → Prop} [DecidablePred q] {xs : List α}
    (each : ∀ x ∈ xs, (f x).countP p = if q x then 1 else 0) : (xs.flatMap f).countP p = xs.countP q := by
  induction xs with
  | nil => rfl
  | cons x xs ih =>
    rw [List.flatMap_cons, List.countP_append, each x List.mem_cons_self,
      ih fun y there => each y (List.mem_cons_of_mem x there), List.countP_cons, Nat.add_comm]
    simp only [decide_eq_true_eq]

/-- What became of all requests at the gate, and how it is counted. -/
theorem exists_decisions {s : Service} {endpoints : List Endpoint} {visits : List Visit}
    (account : ∀ v ∈ visits, v.Account s endpoints) : ∃ decisions : List (Option Outcome),
    List.Forall₂ (fun v decision => v.Ended → v.Ruled s endpoints decision) visits decisions ∧
    ∀ key, (visits.flatMap Visit.tally).countP (CountedUnder .decisions key) =
      decisions.countP fun decision => decision.map Outcome.key = some key := by
  induction visits with
  | nil => exact ⟨[], .nil, fun _ => rfl⟩
  | cons v visits ih =>
    obtain ⟨decision, ruled, counted⟩ := (account v List.mem_cons_self).exists_decision
    obtain ⟨decisions, all_ruled, all_counted⟩ := ih fun u there => account u (List.mem_cons_of_mem v there)
    refine ⟨decision :: decisions, .cons ruled all_ruled, fun key => ?_⟩
    rw [List.flatMap_cons, List.countP_append, counted key, all_counted key, List.countP_cons, Nat.add_comm]
    simp only [decide_eq_true_eq]

/-- **The metrics account for every request.**  In every run of routed requests against a service, on ordinary
answers, what is recorded is what the account says. -/
theorem after_accounted (s : Service) (name : ServiceName) (stores : ServiceState) {events : List Event}
    (ordinary : ∀ e ∈ events, e.Gives Ordinary) (routed : ∀ e ∈ events, e.Brings Request.Routed) :
    Accounted s name.endpoints (after s name.endpoints { state := stores } events)
      (records s name.endpoints { state := stores } events) := by
  have requests : ∀ v ∈ (after s name.endpoints { state := stores } events).visits, v.request.Routed :=
    request_after (fun v member => by cases member) routed
  have sound : (after s name.endpoints { state := stores } events).Sound s name.endpoints :=
    after_sound (sound_start stores) events
  have heard : (after s name.endpoints { state := stores } events).Heard Ordinary :=
    after_heard (heard_start Ordinary stores) ordinary
  have whole : ((after s name.endpoints { state := stores } events).visits.flatMap Visit.tally).Perm
      ([].flatMap Visit.tally ++ records s name.endpoints { state := stores } events) :=
    perm_after { state := stores } events
  have account : ∀ v ∈ (after s name.endpoints { state := stores } events).visits, v.Account s name.endpoints :=
    fun v member => Visit.account_of_travels (sound v member) (heard v member) (requests v member).target
  rw [List.flatMap_nil, List.nil_append] at whole
  refine ⟨fun v member ended => ?_, fun key => ?_, ?_, fun e member => ?_⟩
  · obtain ⟨st, reply, standing⟩ := ended
    obtain ⟨own, -, rfl, -⟩ := (account v member).ended st reply standing
    rw [Visit.requestKey?, standing]
    rfl
  · exact (get_recorded _ .requests key).trans ((whole.countP_eq _).symm.trans (countP_flatMap_eq fun v member =>
      (account v member).countP_requests (requests v member) key))
  · obtain ⟨decisions, ruled, counted⟩ := exists_decisions account
    exact ⟨decisions, ruled, fun key => (get_recorded _ .decisions key).trans
      ((whole.countP_eq _).symm.trans (counted key))⟩
  · obtain ⟨v, visit, own⟩ := List.mem_flatMap.1 (whole.mem_iff.2 member)
    exact (account v visit).known (requests v visit) e own

/-- A world that knows no keys and answers no calls. -/
private def emptyWorld : (q : Ask) → q.Answer
  | .time => (0 : Number)
  | .timer => (0 : Int)
  | .requestNumber => (0 : Nat)
  | .key _ => .absent
  | .refreshKeys => .count 0
  | .heldKeys => ⟨[], none⟩
  | .keyStats => {}
  | .call _ => { reply := none }
  | .log _ => ()
  | .record _ => ()
  | .metricsText => ""

private theorem emptyWorld_ordinary : (q : Ask) → Ordinary q (emptyWorld q)
  | .key _ => ⟨.key none, rfl⟩
  | .call _ => fun _ there => by cases there
  | .time | .timer | .requestNumber | .refreshKeys | .heldKeys | .keyStats | .log _ | .record _ | .metricsText => trivial

private def loneGateway : Service := gatewayTo { scheme := "http", host := some "users.test", path := .segments [""] }

/-- A preflight request that names no origin, and the answer to what it waits for. -/
private def preflightRun : List Event :=
  [.arrives { method := "OPTIONS", target := "/api/users", headers := [("request-id", "r")] }, .answered 0 emptyWorld]

/-- The account of a preflight request that has been answered. -/
theorem after_accounted_preflight :
    (∃ v, (after loneGateway ServiceName.gateway.endpoints { state := {} } preflightRun).visits = [v] ∧ v.Ended) ∧
      Accounted loneGateway ServiceName.gateway.endpoints
        (after loneGateway ServiceName.gateway.endpoints { state := {} } preflightRun)
        (records loneGateway ServiceName.gateway.endpoints { state := {} } preflightRun) := by
  refine ⟨⟨_, rfl, _, _, rfl⟩, after_accounted loneGateway .gateway {} ?_ ?_⟩
  · intro e member
    simp only [preflightRun, List.mem_cons, List.not_mem_nil, or_false] at member
    rcases member with rfl | rfl
    · trivial
    · exact emptyWorld_ordinary
  · intro e member
    simp only [preflightRun, List.mem_cons, List.not_mem_nil, or_false] at member
    rcases member with rfl | rfl
    · exact ⟨by decide, by decide⟩
    · trivial

end Site

end BearerGate
