import BearerGate.Proofs.Service.FailClosed

/-!
# A service at work

A **site** is a service with its stores and all the requests that have come to it.  An event is the arrival
of a request, or an answer to the question that some request waits with; so the requests take turns in
any order, and nothing is said about the answers.  What an event moves is one visit (`Site.moved?`), which
is given the stores as they are and hands them back.

`Site.after_guarded` is the result: after any events each visit fails closed, and whatever changes the stores
next is a visit that the gate has admitted.  `visit_of_run` says that a request that is run in some world
is such a visit.
-/

namespace BearerGate

/-- **A service at work:** its stores, and the requests that have come so far. -/
structure Site where
  state : ServiceState
  visits : List Visit := []

/-- **What can happen to a service.** -/
inductive Site.Event where
  | arrives (r : Request)
  /-- The question that a visit waits with is answered. -/
  | answered (visit : Nat) (answer : (q : Ask) → q.Answer)

/-- A request that has just arrived. -/
def Visit.begin (s : Service) (endpoints : List Endpoint) (r : Request) (st : ServiceState) : Visit where
  request := r
  arrival := st
  turns := []
  standing := respond s endpoints r st

/-- A visit takes a turn, unless it has ended. -/
def Visit.resume? (v : Visit) (answer : (q : Ask) → q.Answer) (st : ServiceState) : Option Visit :=
  match v.standing with
  | .done _ _ => none
  | .ask left q resume =>
    some { v with turns := v.turns ++ [⟨left, q, answer q, st⟩], standing := resume (answer q) st }

namespace Site

section Moves

variable (s : Service) (endpoints : List Endpoint)

/-- **The visit that an event moves,** as it is after that. -/
def moved? (site : Site) : Event → Option Visit
  | .arrives r => some (.begin s endpoints r site.state)
  | .answered n answer => site.visits[n]?.bind fun v => v.resume? answer site.state

/-- The visits with one that has moved. -/
def place (site : Site) : Event → Visit → List Visit
  | .arrives _, v => site.visits ++ [v]
  | .answered n _, v => site.visits.set n v

/-- **One event:** the visit that it moves hands the stores back. -/
def next (site : Site) (e : Event) : Site :=
  match site.moved? s endpoints e with
  | some v => { state := v.standing.state, visits := site.place e v }
  | none => site

/-- **A run:** one event after the other. -/
def after (site : Site) (events : List Event) : Site := events.foldl (next s endpoints) site

end Moves

variable {s : Service} {endpoints : List Endpoint} {site : Site}

/-- All visits go the way of their requests. -/
def Sound (s : Service) (endpoints : List Endpoint) (site : Site) : Prop :=
  ∀ v ∈ site.visits, v.Travels s endpoints

/-- **The visit that an event moves** goes the way of its request, and was given the stores as they were. -/
theorem travels_of_moved? (sound : site.Sound s endpoints) {e : Event} {v : Visit}
    (moves : site.moved? s endpoints e = some v) : v.Travels s endpoints ∧ v.given = site.state := by
  cases e with
  | arrives r =>
    cases moves
    exact ⟨.here _, rfl⟩
  | answered n answer =>
    -- The stores go into the turn that is added, so they are what the visit was given last.
    obtain ⟨old, there, resumes⟩ := Option.bind_eq_some_iff.1 moves
    have travels : old.Travels s endpoints := sound old (List.mem_of_getElem? there)
    obtain ⟨r, arrival, turns, standing⟩ := old
    cases standing with
    | done st reply => cases resumes
    | ask left q resume =>
      cases resumes
      refine ⟨Step.Reaches.snoc travels (answer q) site.state, ?_⟩
      rw [Visit.given, lastGiven_append]
      rfl

/-- **What an event changes** in the stores, the visit that it moves has changed. -/
theorem moved_of_change {α : Type} (part : ServiceState → α) (sound : site.Sound s endpoints) {e : Event}
    (changed : part (site.next s endpoints e).state ≠ part site.state) :
    ∃ v, site.moved? s endpoints e = some v ∧ v.Travels s endpoints ∧
      part v.standing.state ≠ part v.given := by
  unfold next at changed
  cases moves : site.moved? s endpoints e with
  | none =>
    rw [moves] at changed
    exact absurd rfl changed
  | some v =>
    rw [moves] at changed
    obtain ⟨travels, given⟩ := travels_of_moved? sound moves
    refine ⟨v, rfl, travels, ?_⟩
    rw [given]
    exact changed

/-- An event leaves the visits sound. -/
theorem next_sound (sound : site.Sound s endpoints) (e : Event) :
    (site.next s endpoints e).Sound s endpoints := by
  unfold next
  cases moves : site.moved? s endpoints e with
  | none => exact sound
  | some v =>
    have travels := (travels_of_moved? sound moves).1
    intro u member
    cases e with
    | arrives r =>
      rcases List.mem_append.1 member with old | new
      · exact sound u old
      · rw [List.mem_singleton.1 new]
        exact travels
    | answered n answer =>
      rcases List.mem_or_eq_of_mem_set member with old | rfl
      · exact sound u old
      · exact travels

theorem after_sound (sound : site.Sound s endpoints) (events : List Event) :
    (site.after s endpoints events).Sound s endpoints := by
  induction events generalizing site with
  | nil => exact sound
  | cons e events ih => exact ih (next_sound sound e)

/-! ### Every request is answered -/

/-- A visit's questions are answered one after the other. -/
def answering (visit : Nat) (answers : Nat → (q : Ask) → q.Answer) (turns : Nat) : List Event :=
  (List.range turns).map fun n => .answered visit (answers n)

theorem answering_succ (visit : Nat) (answers : Nat → (q : Ask) → q.Answer) (turns : Nat) :
    answering visit answers (turns + 1) =
      .answered visit (answers 0) :: answering visit (fun n => answers (n + 1)) turns := by
  unfold answering
  rw [List.range_succ_eq_map, List.map_cons, List.map_map]
  rfl

/-- An answer moves the visit that it is for. -/
theorem visits_next_answered {n : Nat} {v v' : Visit} {answer : (q : Ask) → q.Answer}
    (there : site.visits[n]? = some v) (resumes : v.resume? answer site.state = some v') :
    (site.next s endpoints (.answered n answer)).visits[n]? = some v' := by
  have moves : site.moved? s endpoints (.answered n answer) = some v' := by
    rw [moved?, there, Option.bind_some]
    exact resumes
  have in_range : n < site.visits.length := (List.getElem?_eq_some_iff.1 there).1
  rw [next, moves]
  exact List.getElem?_set_self in_range

/-- **A visit ends** if its questions keep being answered, whatever the answers are. -/
theorem ends_of_answering {n : Nat} {v : Visit} (there : site.visits[n]? = some v)
    (answers : Nat → (q : Ask) → q.Answer) :
    ∃ turns v' st reply, (site.after s endpoints (answering n answers turns)).visits[n]? = some v' ∧
      v'.request = v.request ∧ v'.standing = .done st reply := by
  obtain ⟨r, arrival, taken, standing⟩ := v
  -- The induction is on what the visit may still do; each answer takes it one step down.
  induction standing generalizing site answers taken with
  | done st reply => exact ⟨0, _, st, reply, there, rfl, rfl⟩
  | ask left q resume ih =>
    have resumes : Visit.resume? ⟨r, arrival, taken, .ask left q resume⟩ (answers 0) site.state =
        some ⟨r, arrival, taken ++ [⟨left, q, answers 0 q, site.state⟩], resume (answers 0 q) site.state⟩ :=
      rfl
    obtain ⟨turns, v', st, reply, ended⟩ :=
      ih _ _ (fun k => answers (k + 1)) _ (visits_next_answered there resumes)
    refine ⟨turns + 1, v', st, reply, ?_⟩
    rw [answering_succ]
    exact ended

/-! ### The guarantee -/

/-- **A site is guarded.** -/
structure Guarded (s : Service) (name : ServiceName) (site : Site) : Prop where
  visits : ∀ v ∈ site.visits, FailClosed s name v
  /-- Every visit that keeps being answered ends. -/
  ends : ∀ n v, site.visits[n]? = some v → ∀ answers : Nat → (q : Ask) → q.Answer,
    ∃ turns v' st reply, (site.after s name.endpoints (answering n answers turns)).visits[n]? = some v' ∧
      v'.request = v.request ∧ v'.standing = .done st reply
  /-- What changes the stores next has been admitted, -/
  stores : ∀ e, (site.next s name.endpoints e).state ≠ site.state →
    ∃ v, site.moved? s name.endpoints e = some v ∧ v.Admitted s name
  /-- what calls another service next has been admitted, -/
  calls : ∀ e v call, site.moved? s name.endpoints e = some v → v.standing.question? = some (.call call) →
    v.Admitted s name
  /-- and what changes the products next is a write of an administrator. -/
  catalogue : ∀ e, (site.next s name.endpoints e).state.products ≠ site.state.products →
    ∃ v, site.moved? s name.endpoints e = some v ∧ v.Administers s

theorem guarded_of_sound {name : ServiceName} (sound : site.Sound s name.endpoints) :
    site.Guarded s name := by
  refine ⟨fun v member => failClosed_of_travels (sound v member), fun n v => ends_of_answering, ?_, ?_, ?_⟩
  · intro e changed
    obtain ⟨v, moves, travels, by_it⟩ := moved_of_change id sound changed
    rcases (failClosed_of_travels travels).still with admitted | still
    · exact ⟨v, moves, admitted⟩
    · exact absurd still.state by_it
  · intro e v call moves calling
    obtain ⟨travels, -⟩ := travels_of_moved? sound moves
    rcases (failClosed_of_travels travels).still with admitted | still
    · exact admitted
    · exact absurd calling (still.calls call)
  · intro e changed
    obtain ⟨v, moves, travels, by_it⟩ := moved_of_change ServiceState.products sound changed
    exact ⟨v, moves, (failClosed_of_travels travels).catalogue by_it⟩

/-- **Every service fails closed.**  Whatever has happened to any of the four services since it began with
some stores, each request that has come to it fails closed, and only a request that the gate has admitted
changes the stores or calls another service next. -/
theorem after_guarded (s : Service) (name : ServiceName) (stores : ServiceState) (events : List Event) :
    Guarded s name (after s name.endpoints { state := stores } events) := by
  have empty : Sound s name.endpoints { state := stores } := by
    intro v member
    cases member
  exact guarded_of_sound (after_sound empty events)

end Site

/-- **A request that is run in a world** is a visit that has ended with its reply, on answers of that
world. -/
theorem visit_of_run {w : Type} (s : Service) (name : ServiceName) (r : Request) (st : ServiceState)
    (answer : (q : Ask) → StateM w q.Answer) (load : StateM w ServiceState)
    (store : ServiceState → StateM w Unit) (world : w) :
    ∃ v : Visit, v.request = r ∧ v.arrival = st ∧ FailClosed s name v ∧
      (∃ st', v.standing = .done st' ((respond s name.endpoints r st).run answer load store world).1) ∧
      ∀ t ∈ v.turns, ∃ world', (answer t.question world').1 = t.answer := by
  obtain ⟨turns, st', path, answered⟩ :=
    Step.reaches_run answer load store (respond s name.endpoints r st) world
  refine ⟨⟨r, st, turns, _⟩, rfl, rfl, failClosed_of_travels path, ⟨st', rfl⟩, answered⟩

end BearerGate
