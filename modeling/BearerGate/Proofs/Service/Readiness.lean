import BearerGate.Proofs.KeySet.Holding
import BearerGate.Proofs.Service.Beside
import BearerGate.Proofs.Service.Deployment
import BearerGate.Proofs.Service.Ending

/-!
# Readiness and health

A service is ready if there is a key to check tokens with.  Whoever asks for that is told how many keys are held at the
time of the answer (`Probed`): if any are held on arrival, at once and without a call on the cache, however old they
are; otherwise when the one fetch has ended that was begun or joined.  What is held goes only when a document comes
that has no usable key, so from one probe that is told of keys every later one is (`heldCount_pos_of_not_emptied`).

Nothing is said about when the cache is called by others, and how their fetches end: a probe is a way of a request
beside any history.  And there is such a way for every history and every end of the fetch (`TracksKeys.answered`).

Whoever asks for the health of a service calls nothing, so the cache stays as it is.
-/

namespace BearerGate

open KeyCache

/-! ### Pages that are open to everyone -/

/-- **A request for a page:** a `GET` for a path of one fixed part. -/
structure Request.AsksForPage (r : Request) (name : String) : Prop where
  gets : r.method = "GET"
  path : ∃ segment, Target.segments? r.target = some (some [segment]) ∧ Target.isLiteral name segment = true

/-- One segment is spelled in one way. -/
theorem eq_of_isLiteral {name other : String} {segment : List SegmentChar}
    (spelled : Target.isLiteral name segment = true) (spelled' : Target.isLiteral other segment = true) :
    name = other := by
  simp only [Target.isLiteral, Bool.and_eq_true, decide_eq_true_eq] at spelled spelled'
  exact String.ext (spelled.2.symm.trans spelled'.2)

section Routing

variable {r : Request} (service : ServiceName) (extra : List Endpoint)

theorem Request.AsksForPage.plain {name : String} (asks : r.AsksForPage name) : r.method ≠ "OPTIONS" := by
  rw [asks.gets]
  decide

/-- Every service has a page for its health, -/
theorem routed_of_asksForHealth (asks : r.AsksForPage "health") :
    routed? (service.endpoints ++ extra) r = some (some ⟨.health, []⟩) := by
  obtain ⟨gets, segment, path, spelled⟩ := asks
  cases service <;>
    simp [routed?, route, path, gets, findMatch, ServiceName.endpoints, Endpoint.answers, Endpoint.methods,
      Endpoint.pattern, matchPattern, spelled]

/-- and one for its readiness. -/
theorem routed_of_asksForReady (asks : r.AsksForPage "ready") :
    routed? (service.endpoints ++ extra) r = some (some ⟨.ready, []⟩) := by
  obtain ⟨gets, segment, path, spelled⟩ := asks
  have other : Target.isLiteral "health" segment = false := by
    refine Bool.eq_false_iff.2 fun same => ?_
    exact absurd (eq_of_isLiteral spelled same) (by decide)
  cases service <;>
    simp [routed?, route, path, gets, findMatch, ServiceName.endpoints, Endpoint.answers, Endpoint.methods,
      Endpoint.pattern, matchPattern, spelled, other]

end Routing

/-! ### The way of a request to an open endpoint -/

/-- What stands in for a ruling where the gate decides nothing; the way out reads its id and its start. -/
def unruled (r : Request) (id : String) (start : Int) : Ruling where
  id
  start
  decision := .broken ""
  context := contextOf r id

theorem travel_eq_of_open {s : Service} {m : Match} (is_open : accessOf (some m) = .open) (r : Request) :
    travel s (some m) r = (do
      let id ← requestId r
      let start ← Task.timer
      Task.record (.gateDecision "public" none)
      let result ← handle s (some m) r (contextOf r id)
      depart s (some m) r (unruled r id start) result) := by
  simp only [travel, answerRequest, guard, is_open, bind_assoc, pure_bind]
  rfl

/-- **How a request to an open endpoint is answered:** before the handler and after it nothing is asked about keys, and
nothing is called. -/
inductive Unguarded (s : Service) (m : Match) (r : Request) (arrival : ServiceState) (turns : List (Turn ServiceState))
    (last : ServiceState) (own : Reply) : Prop
  | intro {front ran back : List (Turn ServiceState)} {u v : ServiceState} {id : String} {start : Int}
      {result : Except Fault Draft} (parts : turns = front ++ (ran ++ back)) (before : Aside front)
      (after : Aside back) (id_fine : r.Deliverable → isReplyHeader ("x-request-id", id) = true)
      (handled : (handle s (some m) r (contextOf r id) u).Reaches ran (.done v result))
      (sent : (depart s (some m) r (unruled r id start) result v).Reaches back (.done last own))

section Open

variable {s : Service} {m : Match} {r : Request} {arrival last : ServiceState} {turns : List (Turn ServiceState)}
  {own : Reply}

variable (allowed : Ask → Prop)

/-- The way out asks for nothing but the time, and reports. -/
theorem asking_depart (logs : ∀ e, allowed (.log e)) (time : allowed .time) (timer : allowed .timer)
    (records : ∀ e, allowed (.record e)) (ruling : Ruling) (result : Except Fault Draft) :
    Task.Within (Contract.asking ServiceState allowed) (fun _ => True) (depart s (some m) r ruling result) := by
  have sends : (Contract.asking ServiceState allowed).LetsSend := ⟨logs, time⟩
  refine .bind (sends.within_send _ r result) fun reply _ => ?_
  exact .bind (.ask timer) fun stop _ => .bind (.ask (records _)) fun _ _ => .pure trivial

theorem asking_requestId (number : allowed .requestNumber) (r : Request) :
    Task.Within (Contract.asking ServiceState allowed) (fun _ => True) (requestId r : Task ServiceState String) := by
  unfold requestId
  split
  · exact .pure trivial
  · exact .bind (.ask number) fun _ _ => .pure trivial

/-- **Every request to an open endpoint is answered so.** -/
theorem unguarded_of_travel (is_open : accessOf (some m) = .open)
    (path : (travel s (some m) r arrival).Reaches turns (.done last own)) : Unguarded s m r arrival turns last own := by
  rw [travel_eq_of_open is_open, Task.bind_apply] at path
  obtain ⟨numbered, turns, s₁, id, rfl, first, path⟩ := Step.reaches_bind_done path
  rw [Task.bind_apply] at path
  obtain ⟨timed, turns, s₂, start, rfl, second, path⟩ := Step.reaches_bind_done path
  rw [Task.bind_apply] at path
  obtain ⟨recorded, turns, s₃, _, rfl, third, path⟩ := Step.reaches_bind_done path
  rw [Task.bind_apply] at path
  obtain ⟨ran, back, v, result, rfl, handled, sent⟩ := Step.reaches_bind_done path
  have idle : Task.Within (Contract.idle ServiceState fun _ _ => True) _ (requestId r) := within_requestId_idle r
  have id_fine := ((idle arrival).of_reaches first fun _ _ => trivial).2
  have aside₁ : Aside numbered := asked_of_asking (asking_requestId (fun q => q.isAboutKeys = false) rfl r) first
  obtain ⟨_, _, rfl⟩ := turns_of_ask second
  obtain ⟨_, _, rfl⟩ := turns_of_ask third
  have aside₂ : Aside back := asked_of_asking
    (asking_depart (fun q => q.isAboutKeys = false) (fun _ => rfl) rfl rfl (fun _ => rfl) _ result) sent
  refine .intro (List.append_assoc numbered [_, _] _).symm (aside₁.append ?_) aside₂ id_fine handled sent
  intro t member
  rcases List.mem_cons.1 member with rfl | member
  · rfl
  · rw [List.mem_singleton.1 member]
    rfl

/-- A page is handled without a body. -/
theorem handler_of_handled (gets : r.method = "GET") {context : RequestContext} {u v : ServiceState}
    {result : Except Fault Draft} (handled : (handle s (some m) r context u).Reaches turns (.done v result)) :
    ∃ answer, result = answer.map Draft.ofAnswer ∧
      ((m.endpoint.handler s (inboundOf m r context .null)).run u).Reaches turns (.done v answer) := by
  rcases handled_cases handled with ⟨f, unread, -⟩ | ⟨body, answer, read, path, same⟩
  · rw [readBody_of_gets gets] at unread
    cases unread
  · rw [readBody_of_gets gets] at read
    cases read
    exact ⟨answer, same, path⟩

end Open

/-! ### Probes -/

/-- **What is told of the readiness of a service** that holds some keys. -/
structure Reply.TellsReadiness (own : Reply) (count : Nat) : Prop where
  status : own.status = 200 ↔ 0 < count
  ready : 0 < count → own.text = (Json.object [("status", .string "ready"), ("keyCount", .nat count)]).render
  unready : count = 0 → own.status = 503 ∧
    ∃ why, own.text = (Json.object [("status", .string "not-ready"), ("error", .string why)]).render

theorem Reply.tellsReadiness_of_ready {own : Reply} {count : Nat} (positive : 0 < count)
    (told : own.status = 200 ∧
      own.text = (Json.object [("status", .string "ready"), ("keyCount", .nat count)]).render) :
    own.TellsReadiness count :=
  ⟨iff_of_true told.1 positive, fun _ => told.2, fun none_held => absurd none_held positive.ne'⟩

theorem Reply.tellsReadiness_of_unready {own : Reply} {count : Nat} (none_held : count = 0) {why : String}
    (told : own.status = 503 ∧
      own.text = (Json.object [("status", .string "not-ready"), ("error", .string why)]).render) :
    own.TellsReadiness count := by
  refine ⟨iff_of_false ?_ none_held.not_gt, fun positive => absurd none_held positive.ne', fun _ => ?_⟩
  · rw [told.1]
    decide
  · exact ⟨told.1, why, told.2⟩

/-- **How a probe goes:** it looks at what is held, and if that is nothing it has the keys refreshed. -/
inductive Probing (own : Reply) (turns : List (Turn ServiceState)) : Prop
  | supplied {front back : List (Turn ServiceState)} {u v : ServiceState} {held : Peek} (before : Aside front)
      (after : Aside back) (some_held : 0 < held.keyIds.length)
      (parts : turns = front ++ ⟨u, .heldKeys, held, v⟩ :: back) (told : own.TellsReadiness held.keyIds.length)
  | bare {front back : List (Turn ServiceState)} {u v u' v' : ServiceState} {held : Peek} {a : CallAnswer}
      (before : Aside front) (after : Aside back) (none_held : held.keyIds.length = 0)
      (parts : turns = front ++ ⟨u, .heldKeys, held, v⟩ :: ⟨u', .refreshKeys, a, v'⟩ :: back)
      (counted : ∀ n, a = .count n → own.TellsReadiness n)
      (unavailable : ∀ cause, a = .unavailable cause → own.TellsReadiness 0)
      (unregistered : ∀ issuer, a = .unregistered issuer → own.TellsReadiness 0)

section Probe

variable {s : Service} {i : Inbound} {r : Request} {u v st : ServiceState} {turns : List (Turn ServiceState)}

theorem readyHandler_run : (readyHandler s i).run = (do
    let held ← Task.ask .heldKeys
    if held.keyIds.length = 0 then
      let a ← Task.ask .refreshKeys
      pure (.ok (readinessAfter a))
    else pure (.ok (readyAnswer held.keyIds.length))) := by
  unfold readyHandler
  rw [Handling.run_bind_ofTask]
  refine congrArg (Task.ask .heldKeys >>= ·) (funext fun held => ?_)
  split
  · exact Handling.run_bind_ofTask _ _
  · rfl

/-- The turns of the handler of probes. -/
theorem turns_of_readyHandler (s : Service) (i : Inbound) {result : Except Fault Answer}
    (path : ((readyHandler s i).run u).Reaches turns (.done v result)) :
    ∃ (u₁ v₁ : ServiceState) (held : Peek),
      (0 < held.keyIds.length ∧ turns = [⟨u₁, .heldKeys, held, v₁⟩] ∧
        result = .ok (readyAnswer held.keyIds.length)) ∨
      held.keyIds.length = 0 ∧ ∃ (u₂ v₂ : ServiceState) (a : CallAnswer),
        turns = [⟨u₁, .heldKeys, held, v₁⟩, ⟨u₂, .refreshKeys, a, v₂⟩] ∧ result = .ok (readinessAfter a) := by
  rw [readyHandler_run, Task.bind_apply] at path
  obtain ⟨looked, turns, s₁, held, rfl, first, onward⟩ := Step.reaches_bind_done path
  obtain ⟨u₁, v₁, rfl⟩ := turns_of_ask first
  refine ⟨u₁, v₁, held, ?_⟩
  by_cases bare : held.keyIds.length = 0
  · rw [if_pos bare, Task.bind_apply] at onward
    obtain ⟨refreshed, turns, s₂, a, rfl, second, last⟩ := Step.reaches_bind_done onward
    obtain ⟨u₂, v₂, rfl⟩ := turns_of_ask second
    obtain ⟨rfl, rfl⟩ := eq_of_reaches_pure last
    exact .inr ⟨bare, u₂, v₂, a, rfl, rfl⟩
  · rw [if_neg bare] at onward
    obtain ⟨rfl, rfl⟩ := eq_of_reaches_pure onward
    exact .inl ⟨Nat.pos_of_ne_zero bare, List.append_nil _, rfl⟩

/-- **Every probe goes so.** -/
theorem probing_of_unguarded {arrival last : ServiceState} {own : Reply} (gets : r.method = "GET")
    (deliverable : r.Deliverable) (unguarded : Unguarded s ⟨.ready, []⟩ r arrival turns last own) :
    Probing own turns := by
  obtain @⟨front, ran, back, u, v, id, start, _, rfl, before, after, id_fine, handled, sent⟩ := unguarded
  obtain ⟨answer, rfl, path⟩ := handler_of_handled gets handled
  have id_fine := id_fine deliverable
  have unready : ∀ {why}, (depart s (some ⟨.ready, []⟩) r (unruled r id start)
      ((Except.ok (notReadyAnswer why)).map Draft.ofAnswer) v).Reaches back (.done last own) → own.TellsReadiness 0 :=
    fun sent => Reply.tellsReadiness_of_unready rfl (told_of_answered gets deliverable id_fine (by decide) sent)
  rcases turns_of_readyHandler s (inboundOf ⟨.ready, []⟩ r (contextOf r id) .null) path with
    ⟨u₁, v₁, held, ⟨supplied, rfl, rfl⟩ | ⟨bare, u₂, v₂, a, rfl, rfl⟩⟩
  · refine .supplied before after supplied rfl ?_
    exact Reply.tellsReadiness_of_ready supplied (told_of_answered gets deliverable id_fine (by decide) sent)
  · refine .bare before after bare rfl ?_ ?_ ?_
    · rintro n rfl
      rcases Nat.eq_zero_or_pos n with rfl | positive
      · exact unready sent
      · rw [readinessAfter, if_neg positive.ne'] at sent
        exact Reply.tellsReadiness_of_ready positive (told_of_answered gets deliverable id_fine (by decide) sent)
    · rintro cause rfl
      exact unready sent
    · rintro issuer rfl
      exact unready sent

end Probe

/-! ### Probes beside the cache -/

/-- **What a probe is told** that has looked at the cache after one history and is answered after another. -/
structure Probed (k : Settings) (issuer : String) (h : History) (calls : List Inquiry) (h' : History) (own : Reply)
    (asked told : History) : Prop where
  order : h <:+ asked ∧ asked <:+ told ∧ told <:+ h'
  /-- It is told how many keys are held then. -/
  tells : own.TellsReadiness (heldCount k issuer told)
  /-- Where some are held, of whatever age, nothing is called and the answer is given at once. -/
  supplied : 0 < heldCount k issuer asked → calls = [] ∧ told = asked
  /-- Where none are held, one fetch is begun or joined, and its end is the answer. -/
  bare : heldCount k issuer asked = 0 → ∃ p, calls = [p] ∧ p.call = .refresh issuer ∧ p.before = asked ∧
    (k.address? issuer ≠ none → JoinsOneFetch k issuer p told)

section Beside

variable {k : Settings} {issuer : String} {h h' : History} {turns : List (Turn ServiceState)} {calls : List Inquiry}
  {own : Reply}

theorem probed_of_probing (probing : Probing own turns) (beside : Beside k issuer h turns calls h') :
    ∃ asked told, Probed k issuer h calls h' own asked told := by
  cases probing with
  | supplied before after some_held parts told =>
    subst parts
    obtain ⟨asked, _, _, first, onward, rfl⟩ := beside.cut
    obtain ⟨_, _, _, ⟨rfl, rfl, same⟩, last, rfl⟩ := onward.uncons
    rw [same] at last
    rw [length_keyIds_peek] at some_held told
    refine ⟨asked, asked, ⟨first.grows, List.suffix_refl _, last.grows⟩, told, fun _ => ⟨?_, rfl⟩,
      fun none_held => absurd none_held some_held.ne'⟩
    rw [first.calls_of_aside before, last.calls_of_aside after]
    rfl
  | @bare front back u v u' v' held a before after none_held parts counted unavailable unregistered =>
    subst parts
    obtain ⟨asked, _, _, first, onward, rfl⟩ := beside.cut
    obtain ⟨_, _, _, ⟨rfl, rfl, same⟩, waited, rfl⟩ := onward.uncons
    rw [same] at waited
    obtain ⟨on, _, _, ⟨p, told, called, rfl, grows⟩, last, rfl⟩ := waited.uncons
    rw [length_keyIds_peek] at none_held
    have later : asked <:+ told := called.grows
    obtain ⟨asks, rfl, m, b, rfl, reply⟩ := called
    refine ⟨p.before, m :: b, ⟨first.grows, later, grows.trans last.grows⟩, ?_,
      fun some_held => absurd none_held some_held.ne', fun _ => ⟨p, ?_, asks, rfl, fun registered => ?_⟩⟩
    · -- The answer to the refresh says as much as is held at that moment.
      cases refreshed_of_reply asks none_held reply with
      | counted => exact counted _ rfl
      | unavailable cause nothing =>
        rw [nothing]
        exact unavailable cause rfl
      | unregistered nothing =>
        rw [nothing]
        exact unregistered issuer rfl
    · rw [first.calls_of_aside before, last.calls_of_aside after]
      rfl
    · exact joinsOneFetch asks registered reply

/-- **From one probe that is told of keys every later one is,** until a document comes that has no usable key. -/
theorem ready_of_ready {h₂ h₂' asked told asked₂ told₂ : History} {calls₂ : List Inquiry} {own₂ : Reply}
    (first : Probed k issuer h calls h' own asked told) (second : Probed k issuer h₂ calls₂ h₂' own₂ asked₂ told₂)
    (later : told <:+ told₂) (never : ¬Emptied k issuer told told₂) (ready : own.status = 200) : own₂.status = 200 :=
  second.tells.status.2 (heldCount_pos_of_not_emptied (first.tells.status.1 ready) later never)

end Beside

/-- **A request for a page that has been answered** beside the key cache. -/
structure Visit.Answered (v : Visit) (s : Service) (endpoints : List Endpoint) (name : String) (k : Settings)
    (issuer : String) (h : History) (calls : List Inquiry) (h' : History) (own : Reply) : Prop where
  travels : v.Travels s endpoints
  asks : v.request.AsksForPage name
  deliverable : v.request.Deliverable
  ended : ∃ last, v.standing = .done last (some own)
  beside : Beside k issuer h v.turns calls h'

/-- The way of a request to an endpoint that is open, in a service that has it. -/
theorem unguarded_of_travels {v : Visit} {s : Service} {endpoints : List Endpoint} {m : Match} {last : ServiceState}
    {reply : Option Reply} (travels : v.Travels s endpoints) (plain : v.request.method ≠ "OPTIONS")
    (routed : routed? endpoints v.request = some (some m)) (is_open : accessOf (some m) = .open)
    (ended : v.standing = .done last reply) :
    ∃ own, reply = some own ∧ Unguarded s m v.request v.arrival v.turns last own := by
  unfold Visit.Travels at travels
  rw [respond_of_routed routed plain, ended] at travels
  obtain ⟨own, rfl, path⟩ := reaches_of_map travels
  exact ⟨own, rfl, unguarded_of_travel is_open path⟩

theorem Visit.Answered.probing {v : Visit} {s : Service} {service : ServiceName} {extra : List Endpoint} {k : Settings}
    {issuer : String} {h h' : History} {calls : List Inquiry} {own : Reply}
    (answered : v.Answered s (service.endpoints ++ extra) "ready" k issuer h calls h' own) : Probing own v.turns := by
  obtain ⟨last, ended⟩ := answered.ended
  obtain ⟨own', same, unguarded⟩ := unguarded_of_travels answered.travels answered.asks.plain
    (routed_of_asksForReady service extra answered.asks) rfl ended
  cases same
  exact probing_of_unguarded answered.asks.gets answered.deliverable unguarded

/-! ### Every end of the fetch is an answer -/

/-- A world in which some keys are shown and a refresh comes to some answer. -/
def showing (shown : Peek) (a : CallAnswer) : (q : Ask) → q.Answer
  | .time => (0 : Number)
  | .timer => (0 : Int)
  | .requestNumber => (1 : Nat)
  | .key _ => KeyAnswer.absent
  | .refreshKeys => a
  | .heldKeys => shown
  | .keyStats => ({} : Stats)
  | .call _ => ({ reply := none } : CallEnd)
  | .log _ => ()
  | .record _ => ()
  | .metricsText => ""

section Exists

variable (s : Service) (service : ServiceName) (extra : List Endpoint) {r : Request} {k : Settings} {issuer : String}
  {h : History}

/-- A probe that nobody interrupts. -/
theorem exists_probing (asks : r.AsksForPage "ready") (deliverable : r.Deliverable) (arrival : ServiceState)
    (shown : Peek) (a : CallAnswer) :
    ∃ v : Visit, ∃ own, v.request = r ∧ v.arrival = arrival ∧ v.Travels s (service.endpoints ++ extra) ∧
      (∃ last, v.standing = .done last (some own)) ∧ Probing own v.turns ∧
      ∀ t ∈ v.turns, showing shown a t.question = t.answer := by
  have path := (respond s (service.endpoints ++ extra) r arrival).reaches_played (showing shown a)
  have answers := (respond s (service.endpoints ++ extra) r arrival).answered_turnsPlayed (showing shown a)
  generalize (respond s (service.endpoints ++ extra) r arrival).turnsPlayed (showing shown a) = turns at path answers
  generalize ended : (respond s (service.endpoints ++ extra) r arrival).played (showing shown a) = last at path
  have travels : Visit.Travels s (service.endpoints ++ extra) ⟨r, arrival, turns, .done last.1 last.2⟩ := path
  obtain ⟨own, same, unguarded⟩ :=
    unguarded_of_travels travels asks.plain (routed_of_asksForReady service extra asks) rfl rfl
  have probing := probing_of_unguarded asks.gets deliverable unguarded
  exact ⟨_, own, rfl, rfl, travels, ⟨last.1, congrArg _ same⟩, probing, answers⟩

/-- Where keys are held, a probe can be answered while nothing happens to the cache. -/
theorem exists_answered_of_held (asks : r.AsksForPage "ready") (deliverable : r.Deliverable) (arrival : ServiceState)
    (held : 0 < heldCount k issuer h) :
    ∃ v : Visit, ∃ own, v.request = r ∧ v.arrival = arrival ∧
      v.Answered s (service.endpoints ++ extra) "ready" k issuer h [] h own := by
  obtain ⟨v, own, rfl, arrived, travels, ended, probing, answers⟩ := exists_probing s service extra asks
    deliverable arrival ((peek k (stateAfter k h) issuer).getD ⟨[], none⟩) (.count 0)
  refine ⟨v, own, rfl, arrived, travels, asks, deliverable, ended, ?_⟩
  cases probing with
  | @supplied front back u w shown before after some_held parts told =>
    rw [parts] at answers ⊢
    have looked := answers ⟨u, .heldKeys, shown, w⟩ (List.mem_append_right front List.mem_cons_self)
    have met : MetByCache k issuer h .heldKeys shown [] h := ⟨looked.symm, rfl, rfl⟩
    have onward : Beside k issuer h (⟨u, .heldKeys, shown, w⟩ :: back) ([] ++ []) h :=
      .cons met (after.beside k issuer h)
    exact (before.beside k issuer h).append onward
  | @bare front back u w u' w' shown a before after none_held parts counted unavailable unregistered =>
    rw [parts] at answers
    have looked := answers ⟨u, .heldKeys, shown, w⟩ (List.mem_append_right front List.mem_cons_self)
    change (peek k (stateAfter k h) issuer).getD ⟨[], none⟩ = shown at looked
    rw [← looked, length_keyIds_peek] at none_held
    exact absurd none_held held.ne'

/-- Where none are held, a probe can be answered by the end of any fetch that its refresh has come to wait for. -/
theorem exists_answered_of_waiting (asks : r.AsksForPage "ready") (deliverable : r.Deliverable)
    (arrival : ServiceState) {p : Inquiry} (none_held : heldCount k issuer p.before = 0)
    (refreshes : p.call = .refresh issuer) {b : History} (waits : p ∈ waiting k issuer b) (now : Number)
    (outcome : FetchOutcome) :
    ∃ v : Visit, ∃ own, v.request = r ∧ v.arrival = arrival ∧
      v.Answered s (service.endpoints ++ extra) "ready" k issuer p.before [p]
        (⟨now, .fetchEnd issuer outcome⟩ :: b) own := by
  obtain ⟨a, reply⟩ := reply_of_waiting k waits now outcome
  obtain ⟨v, own, rfl, arrived, travels, ended, probing, answers⟩ := exists_probing s service extra asks
    deliverable arrival ((peek k (stateAfter k p.before) issuer).getD ⟨[], none⟩) a
  refine ⟨v, own, rfl, arrived, travels, asks, deliverable, ended, ?_⟩
  cases probing with
  | @supplied front back u w shown before after some_held parts told =>
    rw [parts] at answers
    have looked := answers ⟨u, .heldKeys, shown, w⟩ (List.mem_append_right front List.mem_cons_self)
    change (peek k (stateAfter k p.before) issuer).getD ⟨[], none⟩ = shown at looked
    rw [← looked, length_keyIds_peek] at some_held
    exact absurd none_held some_held.ne'
  | @bare front back u w u' w' shown a' before after _ parts counted unavailable unregistered =>
    rw [parts] at answers ⊢
    have looked := answers ⟨u, .heldKeys, shown, w⟩ (List.mem_append_right front List.mem_cons_self)
    have refreshed := answers ⟨u', .refreshKeys, a', w'⟩
      (List.mem_append_right front (List.mem_cons_of_mem _ List.mem_cons_self))
    change a = a' at refreshed
    rw [refreshed] at reply
    have shows : MetByCache k issuer p.before .heldKeys shown [] p.before := ⟨looked.symm, rfl, rfl⟩
    have calls : MetByCache k issuer p.before .refreshKeys a' [p] (⟨now, .fetchEnd issuer outcome⟩ :: b) :=
      ⟨p, _, ⟨refreshes, rfl, _, b, rfl, reply⟩, rfl, List.suffix_refl _⟩
    have onward : Beside k issuer p.before (⟨u, .heldKeys, shown, w⟩ :: ⟨u', .refreshKeys, a', w'⟩ :: back)
        ([] ++ ([p] ++ [])) (⟨now, .fetchEnd issuer outcome⟩ :: b) :=
      .cons shows (.cons calls (after.beside k issuer _))
    exact (before.beside k issuer p.before).append onward

end Exists

/-! ### Health -/

/-- **A request that calls nothing:** it asks neither for a key nor for a refresh, and calls no service. -/
abbrev Calm (σ : Type) : Contract σ := Contract.asking σ fun q => q.isCall = false

/-- **Whoever asks for the health of a service** calls nothing. -/
theorem calm_travel_health (s : Service) (r : Request) :
    Task.Within (Calm ServiceState) (fun _ => True) (travel s (some ⟨.health, []⟩) r) := by
  have handled : ∀ context,
      Task.Within (Calm ServiceState) (fun _ => True) (handle s (some ⟨.health, []⟩) r context) := by
    intro context
    rw [handle_eq]
    split
    · exact .pure trivial
    · rename_i body _
      have looks : Handling.Within (Calm ServiceState) (healthHandler s (inboundOf ⟨.health, []⟩ r context body)) :=
        within_healthHandler_of_looks rfl rfl s _
      exact Task.Within.bind looks fun _ _ => .pure trivial
  rw [travel_eq_of_open rfl]
  refine .bind (asking_requestId (fun q => q.isCall = false) rfl r) fun id _ => ?_
  refine .bind (.ask rfl) fun start _ => .bind (.ask rfl) fun _ _ => ?_
  refine .bind (handled _) fun result _ => ?_
  exact asking_depart (fun q => q.isCall = false) (fun _ => rfl) rfl rfl (fun _ => rfl) _ result

theorem calm_respond_health (s : Service) (service : ServiceName) (extra : List Endpoint) {r : Request}
    (asks : r.AsksForPage "health") :
    Task.Within (Calm ServiceState) (fun _ => True) (respond s (service.endpoints ++ extra) r) := by
  rw [respond_of_routed (routed_of_asksForHealth service extra asks) asks.plain]
  exact (calm_travel_health s r).map fun _ _ => trivial

namespace Deployment

variable {serve : String → Request → Deployed (Option Reply)} {name : String}

/-- The key caches of all services. -/
def keySessions (d : Deployment) : List KeySession := d.instances.map (·.keys)

/-- What is changed in services besides their key caches. -/
theorem keySessions_update (d : Deployment) {f : Instance → Instance} (kept : ∀ i, (f i).keys = i.keys) :
    (d.update name f).keySessions = d.keySessions := by
  rw [keySessions, update, List.map_map]
  refine List.map_congr_left fun i _ => ?_
  rw [Function.comp_apply]
  split
  · exact kept i
  · rfl

/-- A question for which nothing is called leaves all key caches as they are. -/
theorem keySessions_answer {q : Ask} (uncalled : q.isCall = false) (d : Deployment) :
    ((answer serve name q) d).2.keySessions = d.keySessions := by
  cases q with
  | key _ | refreshKeys | call _ => cases uncalled
  | requestNumber => exact keySessions_update d fun _ => rfl
  | _ => rfl

/-- **A task that calls nothing leaves all key caches as they are,** by induction on what it still asks. -/
theorem keySessions_run {σ α : Type} {x : Step σ α} {s : σ} {post : α → Prop} (calm : x.Within (Calm σ) post s)
    {load : Deployed σ} {store : σ → Deployed Unit} (loads : ∀ d, (load d).2.keySessions = d.keySessions)
    (stores : ∀ s d, (store s d).2.keySessions = d.keySessions) (d : Deployment) :
    ((x.run (answer serve name) load store) d).2.keySessions = d.keySessions := by
  induction x generalizing s d with
  | done t a => exact stores t d
  | ask t q resume ih =>
    obtain ⟨-, uncalled, next⟩ := calm
    rw [Step.run]
    exact (ih _ _ (next _ trivial _) _).trans ((loads _).trans ((keySessions_answer uncalled _).trans (stores t d)))

/-- **Serving the health of a service** leaves all key caches as they are. -/
theorem keySessions_serve_health {s : Service} {service : ServiceName} {extra : List Endpoint} {r : Request}
    (asks : r.AsksForPage "health") {d : Deployment} {i : Instance} (there : d.find? name = some i)
    (responds : i.respond = respond s (service.endpoints ++ extra)) (hops : Nat) :
    ((Deployment.serve hops name r) d).2.keySessions = d.keySessions := by
  cases hops with
  | zero => rfl
  | succ hops =>
    have calm := calm_respond_health s service extra asks i.state
    rw [← responds] at calm
    have served : Deployment.serve (hops + 1) name r d =
        ((i.respond r i.state).run (answer (Deployment.serve hops) name)
          (fun d => (((d.find? name).map (·.state)).getD {}, d))
          (fun s => modify fun d => d.update name fun i => { i with state := s }) d) := by
      rw [Deployment.serve]
      simp only [bind, StateT.bind, get, getThe, MonadStateOf.get, StateT.get, pure, there]
    have stores : ∀ (st : ServiceState) (d : Deployment),
        (d.update name fun i => { i with state := st }).keySessions = d.keySessions :=
      fun _ d => keySessions_update d fun _ => rfl
    rw [served]
    exact keySessions_run calm (fun _ => rfl) stores d

end Deployment

/-! ### All of it -/

/-- **The readiness of a service tracks the keys that are held.** -/
structure TracksKeys (s : Service) (endpoints : List Endpoint) (k : Settings) (issuer : String) : Prop where
  /-- Every probe that has been answered was told how many keys were held at the time of the answer. -/
  probed : ∀ (v : Visit) h calls h' own, v.Answered s endpoints "ready" k issuer h calls h' own →
    ∃ asked told, Probed k issuer h calls h' own asked told
  /-- Whatever has happened to the cache, a probe can be answered: at once where keys are held, -/
  answered : ∀ r : Request, r.AsksForPage "ready" → r.Deliverable → ∀ arrival h, 0 < heldCount k issuer h →
    ∃ (v : Visit) (own : Reply), v.request = r ∧ v.arrival = arrival ∧
      v.Answered s endpoints "ready" k issuer h [] h own
  /-- or else by the end of the fetch that its refresh waits for, however that ends. -/
  hears : ∀ r : Request, r.AsksForPage "ready" → r.Deliverable → ∀ arrival (p : Inquiry) b now outcome,
    heldCount k issuer p.before = 0 → p.call = .refresh issuer → p ∈ waiting k issuer b →
    ∃ (v : Visit) (own : Reply), v.request = r ∧ v.arrival = arrival ∧
      v.Answered s endpoints "ready" k issuer p.before [p] (⟨now, .fetchEnd issuer outcome⟩ :: b) own
  /-- Of two probes, the one that is answered later is told of keys if the other was, unless a document has come
  between the answers that has no usable key. -/
  lasts : ∀ (v v₂ : Visit) h calls h' own h₂ calls₂ h₂' own₂,
    v.Answered s endpoints "ready" k issuer h calls h' own →
    v₂.Answered s endpoints "ready" k issuer h₂ calls₂ h₂' own₂ →
    ∃ asked told asked₂ told₂, Probed k issuer h calls h' own asked told ∧
      Probed k issuer h₂ calls₂ h₂' own₂ asked₂ told₂ ∧
      (told <:+ told₂ → ¬Emptied k issuer told told₂ → own.status = 200 → own₂.status = 200)
  /-- A request for the health of the service makes no call on the cache, -/
  health : ∀ (v : Visit) h calls h', v.Travels s endpoints → v.request.AsksForPage "health" →
    Beside k issuer h v.turns calls h' → calls = []
  /-- and serving it leaves the caches of all services as they are, with their counters. -/
  served : ∀ (d : Deployment) name i, d.find? name = some i → i.respond = respond s endpoints →
    ∀ (r : Request) hops, r.AsksForPage "health" →
      ((Deployment.serve hops name r) d).2.instances.map (·.keys) = d.instances.map (·.keys)

/-- **Readiness is told by the keys that are held,** in each of the services, beside any cache. -/
theorem readiness_tracks_keys (s : Service) (service : ServiceName) (extra : List Endpoint) (k : Settings)
    (issuer : String) : TracksKeys s (service.endpoints ++ extra) k issuer where
  probed v h calls h' own answered := probed_of_probing answered.probing answered.beside
  answered r asks deliverable arrival h held :=
    exists_answered_of_held s service extra asks deliverable arrival held
  hears r asks deliverable arrival p b now outcome none_held refreshes waits :=
    exists_answered_of_waiting s service extra asks deliverable arrival none_held refreshes waits now outcome
  lasts v v₂ h calls h' own h₂ calls₂ h₂' own₂ answered answered₂ := by
    obtain ⟨asked, told, first⟩ := probed_of_probing answered.probing answered.beside
    obtain ⟨asked₂, told₂, second⟩ := probed_of_probing answered₂.probing answered₂.beside
    exact ⟨asked, told, asked₂, told₂, first, second, ready_of_ready first second⟩
  health v h calls h' travels asks beside := by
    have calm := calm_respond_health s service extra asks
    exact beside.calls_eq_nil (asked_of_asking calm travels)
  served d name i there responds r hops asks := Deployment.keySessions_serve_health asks there responds hops

end BearerGate
