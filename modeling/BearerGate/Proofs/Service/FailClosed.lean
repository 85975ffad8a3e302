import BearerGate.Proofs.Service.Refusal
import BearerGate.Proofs.Service.Routes

/-!
# Failing closed

Nobody gets past the gate of a service without its word.  This holds whatever the requests are, however
many are on their way at once, in whatever order they take their steps, and whatever the issuer's keys,
the clock and the other services answer them.

* `Passage` tells how far a request has come for which the gate decides.  Only one of its cases is behind
  the gate, and that one comes with what the gate has vouched for.
* A `Visit` is a request on its way, with the turns that it has taken; `FailClosed` says what follows from
  its passage: without the gate's word it gets the gate's own answer, changes nothing and calls nobody, and
  only the word for an administrator lets it change products.
-/

namespace BearerGate

/-! ### How far a request has come -/

/-- **How far a request has come** for which the gate decides. -/
inductive Passage (s : Service) (m : Option Match) (r : Request) (arrival : ServiceState) :
    List (Turn ServiceState) → Step ServiceState (Option Reply) → Prop
  /-- The gate has not ruled yet. -/
  | undecided {turns : List (Turn ServiceState)} {st : ServiceState} {q : Ask}
      {resume : q.Answer → ServiceState → Step ServiceState Ruling}
      (path : (approach s.gate (required m) r arrival).Reaches turns (.ask st q resume)) :
    Passage s m r arrival turns
      ((Step.ask st q resume).bind fun ruling => (some <$> onward s m r ruling : Task _ _))
  | turnedAway {before after : List (Turn ServiceState)} {st : ServiceState} {ruling : Ruling}
      {cause : Rejection} {last : Stage} {y : Step ServiceState (Option Reply)}
      (ruled : (approach s.gate (required m) r arrival).Reaches before (.done st ruling))
      (decided : ruling.decision = .rejected cause last)
      (path : ((some <$> turnAway s m r ruling cause last : Task _ _) st).Reaches after y) :
    Passage s m r arrival (before ++ after) y
  | brokenDown {before after : List (Turn ServiceState)} {st : ServiceState} {ruling : Ruling}
      {why : String} {y : Step ServiceState (Option Reply)}
      (ruled : (approach s.gate (required m) r arrival).Reaches before (.done st ruling))
      (decided : ruling.decision = .broken why)
      (path : ((some <$> breakDown s m r ruling why : Task _ _) st).Reaches after y) :
    Passage s m r arrival (before ++ after) y
  /-- The gate has vouched for the caller; a handler may run, and finds the caller. -/
  | admitted {before after : List (Turn ServiceState)} {st : ServiceState} {ruling : Ruling}
      {claims : Claims} {caller : Principal} {y : Step ServiceState (Option Reply)}
      (ruled : (approach s.gate (required m) r arrival).Reaches before (.done st ruling))
      (decided : ruling.decision = .authorized claims caller)
      (vouched : Vouched s.gate r (required m) before caller)
      (known : ∀ i : Inbound, i.context = ruling.context → i.principalOf = .ok caller)
      (path : ((some <$> letIn s m r ruling caller : Task _ _) st).Reaches after y) :
    Passage s m r arrival (before ++ after) y

/-- The context of a caller who is known shows the caller. -/
theorem principalOf_of_known {i : Inbound} {caller : Principal}
    (known : i.context.principal = some caller) : i.principalOf = .ok caller := by
  simp only [Inbound.principalOf, principalIn, contextIn, bind, Except.bind, known]

/-- **A request that needs what its route requires** is somewhere on its passage. -/
theorem passage_of_reaches {s : Service} {m : Option Match} {r : Request} {arrival : ServiceState}
    {turns : List (Turn ServiceState)} {y : Step ServiceState (Option Reply)}
    (access : accessOf m = .needs (required m))
    (path : ((some <$> travel s m r : Task _ _) arrival).Reaches turns y) :
    Passage s m r arrival turns y := by
  rw [travel_eq access, map_bind, Task.bind_apply] at path
  -- Either the way up to the ruling has not ended, or the rest of the path follows the ruling.
  rcases Step.reaches_bind path with
    ⟨st, q, resume, before, rfl⟩ | ⟨before, after, st, ruling, rfl, ruled, path⟩
  · exact .undecided before
  cases decided : ruling.decision with
  | rejected cause last =>
    unfold onward at path
    rw [decided] at path
    exact .turnedAway ruled decided path
  | broken why =>
    unfold onward at path
    rw [decided] at path
    exact .brokenDown ruled decided path
  | authorized claims caller =>
    unfold onward at path
    rw [decided] at path
    obtain ⟨vouched, known⟩ := vouched_of_approach ruled decided
    refine .admitted ruled decided vouched ?_ path
    intro i same
    rw [← same] at known
    exact principalOf_of_known known

/-! ### What happens on the passage -/

/-- **Standing still** after some turns: the state is as it was given last, and nobody is being called. -/
structure Still (arrival : ServiceState) (turns : List (Turn ServiceState))
    (y : Step ServiceState (Option Reply)) : Prop where
  state : y.state = lastGiven arrival turns
  calls : ∀ call, y.question? ≠ some (.call call)

theorem still_of_within {relies : (q : Ask) → q.Answer → Prop} {post : Option Reply → Prop}
    {arrival : ServiceState} {turns : List (Turn ServiceState)} {y : Step ServiceState (Option Reply)}
    (within : y.Within (Contract.idle ServiceState relies) post (lastGiven arrival turns)) :
    Still arrival turns y where
  state := within.keeps_state.symm
  calls call asked := within.asks_of_question asked call rfl

/-- A way that does nothing, whatever it is answered, stands still wherever it is. -/
theorem still_of_reaches {t : Task ServiceState (Option Reply)} {post : Option Reply → Prop}
    {arrival : ServiceState} {turns : List (Turn ServiceState)} {y : Step ServiceState (Option Reply)}
    (idle : t.Within (Contract.idle ServiceState fun _ _ => True) post)
    (path : (t arrival).Reaches turns y) : Still arrival turns y :=
  still_of_within ((idle arrival).of_reaches path fun _ _ => trivial)

section Ruled

variable {s : Service} {m : Option Match} {r : Request} {arrival st : ServiceState}
  {turns before after : List (Turn ServiceState)} {y : Step ServiceState (Option Reply)} {ruling : Ruling}

/-- At the ruling the state is as it was given last. -/
theorem state_of_ruled (ruled : (approach s.gate (required m) r arrival).Reaches before (.done st ruling)) :
    st = lastGiven arrival before := by
  have up : Task.Within (Contract.idle ServiceState fun _ _ => True) _ (approach s.gate (required m) r) :=
    within_approach s.gate (required m) r
  exact ((up arrival).of_reaches ruled fun _ _ => trivial).1.symm

/-- What comes after the ruling keeps to its contract from the arrival on. -/
theorem within_after {c : Contract ServiceState} {post : Option Reply → Prop}
    {t : Task ServiceState (Option Reply)} (within : t.Within c post)
    (ruled : (approach s.gate (required m) r arrival).Reaches before (.done st ruling))
    (path : (t st).Reaches after y) (answers : ∀ turn ∈ after, c.relies turn.question turn.answer) :
    y.Within c post (lastGiven arrival (before ++ after)) := by
  rw [lastGiven_append, ← state_of_ruled ruled]
  exact (within st).of_reaches path answers

/-- **A request stands still on its passage,** unless it has been let in. -/
theorem Passage.still_or_let_in (passage : Passage s m r arrival turns y) :
    Still arrival turns y ∨
      ∃ caller before after st ruling, turns = before ++ after ∧
        Vouched s.gate r (required m) before caller ∧
        (approach s.gate (required m) r arrival).Reaches before (.done st ruling) ∧
        ((some <$> letIn s m r ruling caller : Task _ _) st).Reaches after y := by
  cases passage with
  | @undecided turns st q resume path =>
    have up : Task.Within (Contract.idle ServiceState fun _ _ => True) _ (approach s.gate (required m) r) :=
      within_approach s.gate (required m) r
    -- A task that waits is the same to look at, whatever follows it.
    have within := (up arrival).of_reaches path fun _ _ => trivial
    exact .inl ⟨within.keeps_state.symm, fun call asked => within.asks_of_question asked call rfl⟩
  | @turnedAway before after st ruling cause last y ruled decided path =>
    have away : Task.Within (Contract.idle ServiceState fun _ _ => True) (fun _ => True)
        (some <$> turnAway s m r ruling cause last) :=
      (within_turnAway s m r ruling cause last).map fun _ _ => trivial
    exact .inl (still_of_within (within_after away ruled path fun _ _ => trivial))
  | @brokenDown before after st ruling why y ruled decided path =>
    have down : Task.Within (Contract.idle ServiceState fun _ _ => True) (fun _ => True)
        (some <$> breakDown s m r ruling why) :=
      (within_breakDown s m r ruling why).map fun _ _ => trivial
    exact .inl (still_of_within (within_after down ruled path fun _ _ => trivial))
  | admitted ruled decided vouched known path =>
    exact .inr ⟨_, _, _, _, _, rfl, vouched, ruled, path⟩

/-- No search of a cache breaks down. -/
theorem not_real_broken (keyId why : String) : ¬Real (.key keyId) (.broken why) := by
  rintro ⟨a, same⟩
  rcases a with (_ | found) | cause | n | issuer <;> cases same

/-- **Whoever is not let in gets the gate's own answer.** -/
theorem Passage.refused {reply : Option Reply} (passage : Passage s m r arrival turns (.done st reply))
    (closed : ∀ caller, ¬Vouched s.gate r (required m) turns caller)
    (real : ∀ t ∈ turns, Real t.question t.answer) (deliverable : r.Deliverable) :
    ∃ cause own, reply = some own ∧ IsRefusal s m r cause own := by
  generalize ended : Step.done st reply = y at passage
  have up : Task.Within (Contract.idle ServiceState Real) _ (approach s.gate (required m) r) :=
    within_approach s.gate (required m) r
  cases passage with
  | undecided path => cases ended
  | @turnedAway before after st ruling cause last y ruled decided path =>
    subst ended
    have first : ∀ t ∈ before, Real t.question t.answer :=
      fun t member => real t (List.mem_append_left after member)
    have rest : ∀ t ∈ after, Real t.question t.answer :=
      fun t member => real t (List.mem_append_right before member)
    have id_fine := ((up arrival).of_reaches ruled first).2.1 deliverable
    have away : Task.Within (Contract.idle ServiceState Real)
        (fun reply => ∃ own, reply = some own ∧ IsRefusal s m r cause own)
        (some <$> turnAway s m r ruling cause last) :=
      (within_turnAway s m r ruling cause last).map fun own refusal =>
        ⟨own, rfl, refusal (fun now shown => shown) deliverable id_fine⟩
    obtain ⟨own, sent, refusal⟩ := (within_after away ruled path rest).2
    exact ⟨cause, own, sent, refusal⟩
  | @brokenDown before after st ruling why y ruled decided path =>
    have first : ∀ t ∈ before, Real t.question t.answer :=
      fun t member => real t (List.mem_append_left after member)
    have unbroken := ((up arrival).of_reaches ruled first).2.2 not_real_broken why
    exact absurd decided unbroken
  | @admitted before after st ruling claims caller y ruled decided vouched known path =>
    exact absurd (vouched.mono (List.infix_append' [] before after)) (closed caller)

/-- **Only a handler that writes products changes the catalogue.** -/
theorem Passage.writes (passage : Passage s m r arrival turns y)
    (changed : y.state.products ≠ (lastGiven arrival turns).products) :
    ∃ m' caller, m = some m' ∧ m'.endpoint.writesProducts = true ∧
      Vouched s.gate r (required m) turns caller := by
  rcases passage.still_or_let_in with still | ⟨caller, before, after, st, ruling, rfl, vouched, ruled, path⟩
  · exact absurd (congrArg ServiceState.products still.state) changed
  -- Behind the gate only the handler can touch the products, and most handlers do not.
  by_cases writes : ∃ m', m = some m' ∧ m'.endpoint.writesProducts = true
  · obtain ⟨m', rfl, writes⟩ := writes
    exact ⟨m', caller, rfl, writes, vouched.mono (List.infix_append' [] before after)⟩
  · refine absurd ?_ changed
    have reads : ∀ m', m = some m' → ∀ i, readBody r = .ok i.body →
        Handling.Within Contract.catalogue (m'.endpoint.handler s i) := by
      intro m' same i _
      refine within_handler_catalogue ?_ s i
      rw [← Bool.not_eq_true]
      exact fun there => writes ⟨m', same, there⟩
    have onward : Task.Within Contract.catalogue (fun _ => True) (some <$> letIn s m r ruling caller) :=
      (within_letIn liberal_catalogue s m r ruling caller reads).map fun _ _ => trivial
    exact (within_after onward ruled path fun _ _ => trivial).keeps_state.symm

end Ruled

/-! ### Requests for which the gate does not decide -/

/-- A request with a readable target that is not a preflight request travels. -/
theorem respond_of_routed {s : Service} {endpoints : List Endpoint} {r : Request} {m : Option Match}
    (routed : routed? endpoints r = some m) (plain : r.method ≠ "OPTIONS") :
    respond s endpoints r = some <$> travel s m r := by
  unfold respond
  rw [if_neg plain]
  unfold routed? at routed
  split at routed
  · rename_i m' leads
    cases routed
    rw [leads]
  · rename_i leads
    cases routed
    rw [leads]
  · cases routed
  · cases routed

/-- **A request to a public endpoint** changes nothing and calls nobody. -/
theorem within_travel_open {relies : (q : Ask) → q.Answer → Prop} (s : Service) {m : Match} (r : Request)
    (is_open : accessOf (some m) = .open) (is_public : m.endpoint.isPublic = true) :
    Task.Within (Contract.idle ServiceState relies) (fun _ => True) (travel s (some m) r) := by
  have liberal := liberal_idle (σ := ServiceState) relies
  have handled : ∀ context, Task.Within (Contract.idle ServiceState relies) (fun _ => True)
      (handle s (some m) r context) := by
    intro context
    refine within_handle liberal s (some m) r context ?_
    intro m' same i _
    cases same
    exact within_handler_idle is_public relies s i
  refine .bind (within_requestId liberal r) fun id _ => ?_
  refine .bind (.timer liberal) fun start _ => ?_
  have answered : Task.Within (Contract.idle ServiceState relies) (fun _ => True)
      (answerRequest s (some m) r id) := by
    unfold answerRequest guard
    rw [is_open]
    refine .bind (.bind (.record liberal _) fun _ _ => .pure rfl) fun guarded same => ?_
    rw [← same]
    exact handled (contextOf r id)
  refine .bind answered fun result _ => ?_
  refine .bind (within_send liberal _ r result) fun reply _ => ?_
  refine .bind (.timer liberal) fun stop _ => ?_
  exact .bind (.record liberal _) fun _ _ => .pure trivial

/-- **A preflight request,** and one whose target cannot be read, changes nothing and calls nobody. -/
theorem within_respond_aside {relies : (q : Ask) → q.Answer → Prop} (s : Service)
    {endpoints : List Endpoint} {r : Request}
    (aside : r.method = "OPTIONS" ∨ routed? endpoints r = none) :
    Task.Within (Contract.idle ServiceState relies) (fun _ => True) (respond s endpoints r) := by
  have liberal := liberal_idle (σ := ServiceState) relies
  have asked : Task.Within (Contract.idle ServiceState relies) (fun _ => True) (preflight s r) := by
    refine .bind (within_requestId liberal r) fun id _ => ?_
    refine .bind (within_send liberal _ r _) fun reply _ => ?_
    exact .bind (.record liberal _) fun _ _ => .pure trivial
  unfold respond
  split
  · split
    · exact .pure trivial
    · exact asked.map fun _ _ => trivial
  · rename_i plain
    have nowhere : routed? endpoints r = none := aside.resolve_left plain
    unfold routed? at nowhere
    split
    · exact .pure trivial
    · exact .bind (within_requestId liberal r) fun id _ => .bind (.time liberal) fun now _ => .pure trivial
    · rename_i leads
      rw [leads] at nowhere
      cases nowhere
    · rename_i m leads
      rw [leads] at nowhere
      cases nowhere

/-! ### Visits -/

/-- **A request on its way through a service,** with the turns that it has taken. -/
structure Visit where
  request : Request
  /-- The state of the service when the request arrived. -/
  arrival : ServiceState
  turns : List (Turn ServiceState)
  /-- Where the request stands. -/
  standing : Step ServiceState (Option Reply)

namespace Visit

/-- The state that a visit was given last. -/
def given (v : Visit) : ServiceState := lastGiven v.arrival v.turns

/-- **A visit goes the way of its request.** -/
def Travels (s : Service) (endpoints : List Endpoint) (v : Visit) : Prop :=
  (respond s endpoints v.request v.arrival).Reaches v.turns v.standing

/-- **The gate has vouched** for the caller of a visit, who has what the route of the request requires. -/
def Admitted (s : Service) (name : ServiceName) (v : Visit) : Prop :=
  v.request.method ≠ "OPTIONS" ∧ ∃ m caller, routed? name.endpoints v.request = some m ∧
    Vouched s.gate v.request (required m) v.turns caller

/-- **A visit changes products as an administrator.** -/
def Administers (s : Service) (v : Visit) : Prop :=
  v.request.method ∈ ["POST", "PUT", "DELETE"] ∧
    ∃ caller, Vouched s.gate v.request (.anyOf ["admin"]) v.turns caller ∧ "admin" ∈ caller.roles

end Visit

/-- **A visit fails closed.** -/
structure FailClosed (s : Service) (name : ServiceName) (v : Visit) : Prop where
  /-- Only past the gate is there a handler, -/
  gated : ∀ m, routed? name.endpoints v.request = some m → v.request.method ≠ "OPTIONS" →
    ¬v.request.IsPublic → Passage s m v.request v.arrival v.turns v.standing
  /-- and whoever is not let in gets the gate's own answer. -/
  refused : ∀ m st reply, routed? name.endpoints v.request = some m → v.request.method ≠ "OPTIONS" →
    ¬v.request.IsPublic → (∀ caller, ¬Vouched s.gate v.request (required m) v.turns caller) →
    (∀ t ∈ v.turns, Real t.question t.answer) → v.request.Deliverable → v.standing = .done st reply →
    ∃ cause own, reply = some own ∧ IsRefusal s m v.request cause own ∧ own.status ∈ [401, 403, 503]
  /-- Whoever is not let in changes nothing and calls nobody. -/
  still : v.Admitted s name ∨ Still v.arrival v.turns v.standing
  catalogue : v.standing.state.products ≠ v.given.products → v.Administers s

/-- **Every visit fails closed,** wherever it is on its way. -/
theorem failClosed_of_travels {s : Service} {name : ServiceName} {v : Visit}
    (travels : v.Travels s name.endpoints) : FailClosed s name v := by
  obtain ⟨r, arrival, turns, y⟩ := v
  change (respond s name.endpoints r arrival).Reaches turns y at travels
  have passage : ∀ m, routed? name.endpoints r = some m → r.method ≠ "OPTIONS" →
      accessOf m = .needs (required m) → Passage s m r arrival turns y := by
    intro m routed plain access
    rw [respond_of_routed routed plain] at travels
    exact passage_of_reaches access travels
  have gated : ∀ m, routed? name.endpoints r = some m → r.method ≠ "OPTIONS" → ¬r.IsPublic →
      Passage s m r arrival turns y :=
    fun m routed plain closed => passage m routed plain (accessOf_eq routed closed)
  -- Whether the gate decides about a request depends on its method, its target and its endpoint.
  have sorted : Still arrival turns y ∨ ∃ m, routed? name.endpoints r = some m ∧ r.method ≠ "OPTIONS" ∧
      Passage s m r arrival turns y := by
    by_cases aside : r.method = "OPTIONS" ∨ routed? name.endpoints r = none
    · exact .inl (still_of_reaches (within_respond_aside s aside) travels)
    · rw [not_or] at aside
      obtain ⟨plain, readable⟩ := aside
      obtain ⟨m, routed⟩ := Option.ne_none_iff_exists'.1 readable
      rcases accessOf_cases routed with ⟨m', rfl, is_public, is_open⟩ | access
      · rw [respond_of_routed routed plain] at travels
        have idle : Task.Within (Contract.idle ServiceState fun _ _ => True) (fun _ => True)
            (some <$> travel s (some m') r) :=
          (within_travel_open s r is_open is_public).map fun _ _ => trivial
        exact .inl (still_of_reaches idle travels)
      · exact .inr ⟨m, routed, plain, passage m routed plain access⟩
  refine ⟨gated, ?_, ?_, ?_⟩
  · rintro m st reply routed plain closed unvouched real deliverable rfl
    obtain ⟨cause, own, sent, refusal⟩ := (gated m routed plain closed).refused unvouched real deliverable
    refine ⟨cause, own, sent, refusal, ?_⟩
    obtain ⟨id, now, -, status⟩ := refusal
    rw [status]
    exact cause.reason.status_mem
  · rcases sorted with still | ⟨m, routed, plain, passage⟩
    · exact .inr still
    · rcases passage.still_or_let_in with still | ⟨caller, before, after, st, ruling, rfl, vouched, -, -⟩
      · exact .inr still
      · exact .inl ⟨plain, m, caller, routed, vouched.mono (List.infix_append' [] before after)⟩
  · intro changed
    rcases sorted with still | ⟨m, routed, plain, passage⟩
    · exact absurd (congrArg ServiceState.products still.state) changed
    · obtain ⟨m', caller, rfl, writes, vouched⟩ := passage.writes changed
      obtain ⟨write, role⟩ := required_of_writesProducts writes (of_routed? routed).2.1
      rw [role] at vouched
      exact ⟨write, caller, vouched, vouched.role⟩

end BearerGate
