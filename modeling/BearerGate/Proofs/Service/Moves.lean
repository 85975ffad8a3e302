import BearerGate.Proofs.Service.Refusal
import BearerGate.Proofs.Service.Site

/-!
# The moves of a run

Along a path a task is given a state at each turn and hands one back: these are its **steps** (`steps`).  A path
of a task that keeps to a contract changes the state within that contract at every step (`keeps_of_reaches`).

At a site the steps of all visits are interleaved.  `Site.moves` lists what every event of a run does to the
stores, with the visit that does it; `Site.steps_after` says that the moves of one visit, taken out of that list,
are the steps along its path.  So what a path says about one request holds of that request in any run, and
whatever stands between two of its moves has been done by others.
-/

namespace BearerGate

/-! ### Steps along a path -/

section Steps

variable {σ α β : Type}

/-- **The steps along some turns:** the state that was given and the one that was handed back, up to where the
task stands with its last state. -/
def steps (s : σ) : List (Turn σ) → (last : σ) → List (σ × σ)
  | [], last => [(s, last)]
  | t :: turns, last => (s, t.left) :: steps t.back turns last

/-- One more turn is one more step. -/
theorem steps_snoc (s : σ) (turns : List (Turn σ)) (t : Turn σ) (last : σ) :
    steps s (turns ++ [t]) last = steps s turns t.left ++ [(t.back, last)] := by
  induction turns generalizing s with
  | nil => rfl
  | cons u turns ih => exact congrArg ((s, u.left) :: ·) (ih u.back)

/-- Only the first step shows what was given first. -/
theorem exists_steps_eq_cons (turns : List (Turn σ)) (last : σ) :
    ∃ left back, ∀ s, steps s turns last = (s, left) :: back := by
  cases turns with
  | nil => exact ⟨last, [], fun _ => rfl⟩
  | cons t turns => exact ⟨t.left, steps t.back turns last, fun _ => rfl⟩

/-- **Every step along a path is one that the contract allows.** -/
theorem keeps_of_reaches {c : Contract σ} {post : α → Prop} {s : σ} {x y : Step σ α} {turns : List (Turn σ)}
    (path : x.Reaches turns y) (within : x.Within c post s)
    (answers : ∀ t ∈ turns, c.relies t.question t.answer) : ∀ p ∈ steps s turns y.state, c.keeps p.1 p.2 := by
  induction path generalizing s with
  | here x =>
    intro p member
    rw [List.mem_singleton.1 member]
    exact within.keeps_state
  | @turn t u q resume answer turns y rest ih =>
    have given : c.relies q answer := answers ⟨t, q, answer, u⟩ List.mem_cons_self
    intro p member
    rcases List.mem_cons.1 member with rfl | later
    · exact within.1
    · exact ih (within.2.2 answer given u) (fun t member => answers t (List.mem_cons_of_mem _ member)) p later

/-- **Steps that change nothing.** -/
def Unchanging (ps : List (σ × σ)) : Prop := ∀ p ∈ ps, p.2 = p.1

/-- **A path along which nothing changes leads on** to one that begins with the same state. -/
theorem exists_steps_append {s u : σ} {first : List (Turn σ)} (still : Unchanging (steps s first u))
    (rest : List (Turn σ)) (last : σ) :
    ∃ front, Unchanging front ∧ steps s (first ++ rest) last = front ++ steps u rest last := by
  induction first generalizing s with
  | nil =>
    obtain rfl : u = s := still _ (List.mem_singleton_self _)
    exact ⟨[], by simp [Unchanging], rfl⟩
  | cons t first ih =>
    obtain ⟨front, front_still, same⟩ := ih fun p member => still p (List.mem_cons_of_mem _ member)
    refine ⟨(s, t.left) :: front, ?_, congrArg ((s, t.left) :: ·) same⟩
    intro p member
    rcases List.mem_cons.1 member with rfl | later
    · exact still _ List.mem_cons_self
    · exact front_still p later

theorem unchanging_append {s u last : σ} {first rest : List (Turn σ)} (still : Unchanging (steps s first u))
    (onward : Unchanging (steps u rest last)) : Unchanging (steps s (first ++ rest) last) := by
  obtain ⟨front, front_still, same⟩ := exists_steps_append still rest last
  rw [same]
  intro p member
  rcases List.mem_append.1 member with early | late
  · exact front_still p early
  · exact onward p late

/-- **One step at most changes anything,** and it leads from one state to another. -/
def Turning (ps : List (σ × σ)) (before after : σ) : Prop :=
  ∃ front back, ps = front ++ (before, after) :: back ∧ Unchanging front ∧ Unchanging back

/-- A path that stands still, makes one change and stands still again. -/
theorem turning_append {s u u' last : σ} {first rest : List (Turn σ)} (still : Unchanging (steps s first u))
    (onward : Unchanging (steps u' rest last)) : Turning (steps s (first ++ rest) last) u u' := by
  obtain ⟨front, front_still, same⟩ := exists_steps_append still rest last
  obtain ⟨left, back, shown⟩ := exists_steps_eq_cons rest last
  rw [shown u'] at onward
  obtain rfl : left = u' := onward _ List.mem_cons_self
  exact ⟨front, back, by rw [same, shown u], front_still, fun p member => onward p (List.mem_cons_of_mem _ member)⟩

/-- A path whose one change leads back to where it was stands still. -/
theorem unchanging_of_turning {ps : List (σ × σ)} {u : σ} (turning : Turning ps u u) : Unchanging ps := by
  obtain ⟨front, back, rfl, front_still, back_still⟩ := turning
  intro p member
  rcases List.mem_append.1 member with early | here
  · exact front_still p early
  · rcases List.mem_cons.1 here with rfl | late
    · rfl
    · exact back_still p late

/-- **A task that does nothing stands still along its path.** -/
theorem unchanging_of_idle {relies : (q : Ask) → q.Answer → Prop} {t : Task σ α} {post : α → Prop}
    (idle : t.Within (Contract.idle σ relies) post) {s : σ} {turns : List (Turn σ)} {y : Step σ α}
    (path : (t s).Reaches turns y) (answers : ∀ t ∈ turns, relies t.question t.answer) :
    Unchanging (steps s turns y.state) :=
  fun p member => (keeps_of_reaches path (idle s) answers p member).symm

end Steps

/-! ### Tasks that nobody interrupts -/

section Played

variable {σ α β : Type} (answers : (q : Ask) → q.Answer)

/-- **A task that nobody interrupts** in a world that answers every question in one way: it is given the state as it
has left it. -/
def Step.played : Step σ α → σ × α
  | .done s a => (s, a)
  | .ask s q resume => (resume (answers q) s).played

/-- The turns that such a task takes. -/
def Step.turnsPlayed : Step σ α → List (Turn σ)
  | .done _ _ => []
  | .ask s q resume => ⟨s, q, answers q, s⟩ :: (resume (answers q) s).turnsPlayed

theorem Step.reaches_played (x : Step σ α) :
    x.Reaches (x.turnsPlayed answers) (.done (x.played answers).1 (x.played answers).2) := by
  induction x with
  | done s a => exact .here _
  | ask s q resume ih => exact .turn (ih (answers q) s)

theorem Step.played_bind (x : Step σ α) (f : α → σ → Step σ β) :
    (x.bind f).played answers = (f (x.played answers).2 (x.played answers).1).played answers := by
  induction x with
  | done s a => rfl
  | ask s q resume ih => exact ih (answers q) s

theorem Task.played_bind (t : Task σ α) (f : α → Task σ β) (s : σ) :
    ((t >>= f) s).played answers = (f ((t s).played answers).2 ((t s).played answers).1).played answers :=
  Step.played_bind answers (t s) fun a => f a

theorem Step.turnsPlayed_bind (x : Step σ α) (f : α → σ → Step σ β) :
    (x.bind f).turnsPlayed answers =
      x.turnsPlayed answers ++ (f (x.played answers).2 (x.played answers).1).turnsPlayed answers := by
  induction x with
  | done s a => rfl
  | ask s q resume ih => exact congrArg (_ :: ·) (ih (answers q) s)

theorem Step.answered_turnsPlayed (x : Step σ α) : ∀ t ∈ x.turnsPlayed answers, answers t.question = t.answer := by
  induction x with
  | done s a =>
    intro t member
    cases member
  | ask s q resume ih =>
    intro t member
    rcases List.mem_cons.1 member with rfl | later
    · rfl
    · exact ih (answers q) s t later

/-- It does the same in a world that gives the same answers to what it asks. -/
theorem Step.played_congr {answers' : (q : Ask) → q.Answer} (x : Step σ α)
    (alike : ∀ t ∈ x.turnsPlayed answers, answers' t.question = answers t.question) :
    x.played answers' = x.played answers := by
  induction x with
  | done s a => rfl
  | ask s q resume ih =>
    have same : answers' q = answers q := alike _ List.mem_cons_self
    have rest := ih (answers q) s fun t later => alike t (List.mem_cons_of_mem _ later)
    simp only [played, same, rest]

/-- It keeps to every contract that it keeps to among others. -/
theorem Step.Within.keeps_played {c : Contract σ} {post : α → Prop} {x : Step σ α} {s : σ}
    (within : x.Within c post s) (given : ∀ q, c.relies q (answers q)) : c.keeps s (x.played answers).1 := by
  induction x generalizing s with
  | done t a => exact within.1
  | ask t q resume ih => exact c.trans within.1 (ih (answers q) t (within.2.2 (answers q) (given q) t))

/-- As long as it changes nothing it is given the state that it began with. -/
theorem Step.eq_of_unchanging_played (x : Step σ α) {s : σ}
    (still : Unchanging (steps s (x.turnsPlayed answers) (x.played answers).1)) :
    ∀ p ∈ steps s (x.turnsPlayed answers) (x.played answers).1, p.1 = s := by
  induction x generalizing s with
  | done t a =>
    intro p member
    rw [List.mem_singleton.1 member]
  | ask t q resume ih =>
    obtain rfl : t = s := still (s, t) List.mem_cons_self
    intro p member
    rcases List.mem_cons.1 member with rfl | later
    · rfl
    · exact ih (answers q) t (fun p there => still p (List.mem_cons_of_mem _ there)) p later

end Played

/-! ### Moves -/

/-- The steps of a visit. -/
def Visit.steps (v : Visit) : List (ServiceState × ServiceState) :=
  BearerGate.steps v.arrival v.turns v.standing.state

/-- A turn of a visit is one more step. -/
theorem Visit.steps_resume? {v v' : Visit} {answer : (q : Ask) → q.Answer} {st : ServiceState}
    (resumes : v.resume? answer st = some v') : v'.steps = v.steps ++ [(st, v'.standing.state)] := by
  obtain ⟨r, arrival, turns, standing⟩ := v
  cases standing with
  | done st reply => cases resumes
  | ask left q resume =>
    cases resumes
    exact steps_snoc arrival turns _ _

/-- **What a visit does to the stores at one event.** -/
structure Move where
  visit : Nat
  before : ServiceState
  after : ServiceState

/-- The step that a move is. -/
def Move.step (m : Move) : ServiceState × ServiceState := (m.before, m.after)

/-- The moves of one visit. -/
def movesOf (visit : Nat) (ms : List Move) : List Move := ms.filter (·.visit = visit)

namespace Site

section Runs

variable (s : Service) (endpoints : List Endpoint)

/-- The visit that an event is about. -/
def visitOf (site : Site) : Event → Nat
  | .arrives _ => site.visits.length
  | .answered n _ => n

/-- The move of an event, unless it moves nothing. -/
def move? (site : Site) (e : Event) : Option Move :=
  (site.moved? s endpoints e).map fun v => ⟨site.visitOf e, site.state, v.standing.state⟩

/-- **The moves of a run.** -/
def moves (site : Site) : List Event → List Move
  | [] => []
  | e :: events => (site.move? s endpoints e).toList ++ moves (site.next s endpoints e) events

/-- The steps that a visit has taken so far. -/
def stepsAt (site : Site) (n : Nat) : List (ServiceState × ServiceState) :=
  (site.visits[n]?.map Visit.steps).getD []

end Runs

variable {s : Service} {endpoints : List Endpoint} {site : Site}

/-- An event adds its move to the steps of its visit. -/
theorem steps_next (site : Site) (e : Event) (n : Nat) :
    (site.next s endpoints e).stepsAt n =
      site.stepsAt n ++ (movesOf n (site.move? s endpoints e).toList).map Move.step := by
  unfold next move? stepsAt movesOf
  cases moves : site.moved? s endpoints e with
  | none => simp
  | some v =>
    cases e with
    | arrives r =>
      cases moves
      rcases lt_trichotomy n site.visits.length with earlier | rfl | later
      · have other : site.visits.length ≠ n := earlier.ne'
        simp [place, visitOf, other, List.getElem?_append_left earlier]
      · simp [place, visitOf, Visit.steps, Visit.begin, BearerGate.steps, Move.step]
      · have other : site.visits.length ≠ n := later.ne
        have absent : site.visits[n]? = none := List.getElem?_eq_none later.le
        have absent' : (site.visits ++ [Visit.begin s endpoints r site.state])[n]? = none := by
          rw [List.getElem?_eq_none]
          simpa using later
        simp [place, visitOf, other, absent, absent']
    | answered k answer =>
      obtain ⟨old, there, resumes⟩ := Option.bind_eq_some_iff.1 moves
      have in_range : k < site.visits.length := (List.getElem?_eq_some_iff.1 there).1
      by_cases same : k = n
      · subst same
        have placed : (site.visits.set k v)[k]? = some v := List.getElem?_set_self in_range
        simp only [place, placed, there, Option.map_some, Option.getD_some, Visit.steps_resume? resumes]
        simp [visitOf, Move.step]
      · simp [place, visitOf, same]

/-- **The moves of a visit are its steps.** -/
theorem steps_after (site : Site) (events : List Event) (n : Nat) :
    (site.after s endpoints events).stepsAt n =
      site.stepsAt n ++ (movesOf n (site.moves s endpoints events)).map Move.step := by
  induction events generalizing site with
  | nil => simp [after, moves, movesOf]
  | cons e events ih =>
    have later := ih (site.next s endpoints e)
    rw [steps_next] at later
    simp only [moves, movesOf, List.filter_append, List.map_append, ← List.append_assoc] at later ⊢
    exact later

theorem moves_append (site : Site) (first rest : List Event) :
    site.moves s endpoints (first ++ rest) =
      site.moves s endpoints first ++ (site.after s endpoints first).moves s endpoints rest := by
  induction first generalizing site with
  | nil => rfl
  | cons e first ih =>
    simp only [List.cons_append, moves, ih, List.append_assoc]
    rfl

/-- A step of a visit that is new in a run is a move of that run, and what comes before it and after it are the
other moves of the visit. -/
theorem exists_move {events : List Event} {n : Nat} {front back : List (ServiceState × ServiceState)}
    {p : ServiceState × ServiceState}
    (taken : (movesOf n (site.moves s endpoints events)).map Move.step = front ++ p :: back) :
    ∃ earlier move later, site.moves s endpoints events = earlier ++ move :: later ∧ move.visit = n ∧
      move.step = p ∧ (movesOf n earlier).map Move.step = front ∧ (movesOf n later).map Move.step = back := by
  obtain ⟨early, rest, split, early_eq, rest_eq⟩ := List.map_eq_append_iff.1 taken
  obtain ⟨move, late, rfl, move_eq, late_eq⟩ := List.map_eq_cons_iff.1 rest_eq
  obtain ⟨earlier, onward, whole, earlier_eq, onward_eq⟩ := List.filter_eq_append_iff.1 split
  obtain ⟨skipped, later, rfl, none_own, own, later_eq⟩ := List.filter_eq_cons_iff.1 onward_eq
  refine ⟨earlier ++ skipped, move, later, ?_, by simpa using own, move_eq, ?_, ?_⟩
  · rw [whole, List.append_assoc]
  · have skipped_eq : movesOf n skipped = [] := List.filter_eq_nil_iff.2 none_own
    have earlier_eq' : movesOf n earlier = early := earlier_eq
    rw [movesOf, List.filter_append, ← movesOf, ← movesOf, skipped_eq, List.append_nil, earlier_eq', early_eq]
  · have later_eq' : movesOf n later = late := later_eq
    rw [later_eq', late_eq]

/-- A visit that has not begun has no moves. -/
theorem movesOf_eq_nil {events : List Event} {n : Nat} (absent : (site.after s endpoints events).visits.length ≤ n) :
    movesOf n (site.moves s endpoints events) = [] := by
  have taken : (site.after s endpoints events).stepsAt n = _ := steps_after site events n
  rw [stepsAt, List.getElem?_eq_none absent] at taken
  exact List.map_eq_nil_iff.1 (List.append_eq_nil_iff.1 taken.symm).2

/-- **What comes before a move of a visit that begins later** are all moves up to then, and maybe more. -/
theorem exists_earlier {first rest : List Event} {n : Nat}
    (absent : (site.after s endpoints first).visits.length ≤ n) {earlier later : List Move} {move : Move}
    (by_it : move.visit = n) (run : site.moves s endpoints (first ++ rest) = earlier ++ move :: later) :
    ∃ between, earlier = site.moves s endpoints first ++ between := by
  rw [moves_append] at run
  rcases List.append_eq_append_iff.1 run with ⟨between, rfl, -⟩ | ⟨beyond, front, back⟩
  · exact ⟨between, rfl⟩
  · cases beyond with
    | nil =>
      rw [List.append_nil] at front
      exact ⟨[], by rw [List.append_nil, front]⟩
    | cons own beyond =>
      obtain rfl : move = own := (List.cons.inj back).1
      have member : move ∈ movesOf n (site.moves s endpoints first) :=
        List.mem_filter.2 ⟨by rw [front]; simp, by simpa using by_it⟩
      rw [movesOf_eq_nil absent] at member
      cases member

/-! ### What all moves keep -/

/-- **The answers in an event** are of a kind. -/
def Event.Gives (relies : (q : Ask) → q.Answer → Prop) : Event → Prop
  | .arrives _ => True
  | .answered _ answer => ∀ q, relies q (answer q)

theorem Event.Gives.mono {relies relies' : (q : Ask) → q.Answer → Prop} (weaker : ∀ q a, relies q a → relies' q a)
    {e : Event} (gives : e.Gives relies) : e.Gives relies' := by
  cases e with
  | arrives r => trivial
  | answered n answer => exact fun q => weaker q _ (gives q)

/-- The visits of a site have been given answers of a kind. -/
def Heard (relies : (q : Ask) → q.Answer → Prop) (site : Site) : Prop :=
  ∀ v ∈ site.visits, ∀ t ∈ v.turns, relies t.question t.answer

section Kept

variable {relies : (q : Ask) → q.Answer → Prop}

/-- What an event moves has heard what the event says, and what was said before. -/
theorem heard_of_moved? (heard : site.Heard relies) {e : Event} (gives : e.Gives relies) {v : Visit}
    (moved : site.moved? s endpoints e = some v) : ∀ t ∈ v.turns, relies t.question t.answer := by
  cases e with
  | arrives r =>
    cases moved
    intro t member
    cases member
  | answered n answer =>
    obtain ⟨old, there, resumes⟩ := Option.bind_eq_some_iff.1 moved
    have before := heard old (List.mem_of_getElem? there)
    obtain ⟨r, arrival, turns, standing⟩ := old
    cases standing with
    | done st reply => cases resumes
    | ask left q resume =>
      cases resumes
      intro t member
      rcases List.mem_append.1 member with earlier | new
      · exact before t earlier
      · rw [List.mem_singleton.1 new]
        exact gives q

theorem next_heard (heard : site.Heard relies) {e : Event} (gives : e.Gives relies) :
    (site.next s endpoints e).Heard relies := by
  unfold next
  cases moved : site.moved? s endpoints e with
  | none => exact heard
  | some v =>
    have of_it := heard_of_moved? heard gives moved
    intro u member
    cases e with
    | arrives r =>
      rcases List.mem_append.1 member with old | new
      · exact heard u old
      · rw [List.mem_singleton.1 new]
        exact of_it
    | answered n answer =>
      rcases List.mem_or_eq_of_mem_set member with old | rfl
      · exact heard u old
      · exact of_it

theorem after_heard (heard : site.Heard relies) {events : List Event} (gives : ∀ e ∈ events, e.Gives relies) :
    (site.after s endpoints events).Heard relies := by
  induction events generalizing site with
  | nil => exact heard
  | cons e events ih =>
    exact ih (next_heard heard (gives e List.mem_cons_self)) fun e' member => gives e' (List.mem_cons_of_mem _ member)

/-- **Every move of a run keeps to a contract** that all requests keep to. -/
theorem keeps_of_mem_moves {c : Contract ServiceState}
    (within : ∀ r, Task.Within c (fun _ => True) (respond s endpoints r)) (sound : site.Sound s endpoints)
    (heard : site.Heard c.relies) {events : List Event} (gives : ∀ e ∈ events, e.Gives c.relies) :
    ∀ m ∈ site.moves s endpoints events, c.keeps m.before m.after := by
  induction events generalizing site with
  | nil =>
    intro m member
    cases member
  | cons e events ih =>
    have here := gives e List.mem_cons_self
    intro m member
    rcases List.mem_append.1 member with now | later
    · obtain ⟨v, moved, rfl⟩ := Option.map_eq_some_iff.1 (Option.mem_toList.1 now)
      obtain ⟨travels, given⟩ := travels_of_moved? sound moved
      have kept := ((within v.request v.arrival).of_reaches travels (heard_of_moved? heard here moved)).keeps_state
      rw [show lastGiven v.arrival v.turns = site.state from given] at kept
      exact kept
    · exact ih (next_sound sound e) (next_heard heard here)
        (fun e' member => gives e' (List.mem_cons_of_mem _ member)) m later

/-- A move begins with the stores as the moves before it have left them. -/
theorem next_state (site : Site) (e : Event) :
    (site.next s endpoints e).state = ((site.move? s endpoints e).map Move.after).getD site.state := by
  unfold next move?
  cases site.moved? s endpoints e with
  | none => rfl
  | some v => rfl

/-- **What the start has and every move keeps** is there before every move. -/
theorem holds_before (holds : ServiceState → Prop)
    (start : holds site.state) {events : List Event}
    (kept : ∀ m ∈ site.moves s endpoints events, holds m.before → holds m.after) :
    ∀ m ∈ site.moves s endpoints events, holds m.before := by
  induction events generalizing site with
  | nil =>
    intro m member
    cases member
  | cons e events ih =>
    have state : (site.next s endpoints e).state = _ := next_state site e
    rw [moves] at kept ⊢
    cases first : site.move? s endpoints e with
    | none =>
      rw [first] at state kept
      exact ih (by rw [state]; exact start) kept
    | some own =>
      rw [first] at state kept
      have given : own.before = site.state := by
        obtain ⟨v, -, rfl⟩ := Option.map_eq_some_iff.1 first
        rfl
      have here : holds own.before := by rwa [given]
      intro m member
      rcases List.mem_cons.1 member with rfl | later
      · exact here
      · refine ih ?_ (fun m there => kept m (List.mem_cons_of_mem _ there)) m later
        rw [state]
        exact kept own List.mem_cons_self here

end Kept

/-! ### A visit in a run from the start -/

/-- The visits of a site at its start: there are none. -/
theorem sound_start (stores : ServiceState) : Sound s endpoints { state := stores } := by
  intro v member
  cases member

theorem heard_start (relies : (q : Ask) → q.Answer → Prop) (stores : ServiceState) :
    Heard relies { state := stores } := by
  intro v member
  cases member

/-- **A visit of a run goes the way of its request,** on answers of the kind that the run gives, and its steps are
its moves. -/
theorem visit_of_after {stores : ServiceState} {events : List Event} {relies : (q : Ask) → q.Answer → Prop}
    (gives : ∀ e ∈ events, e.Gives relies) {n : Nat} {v : Visit}
    (there : (after s endpoints { state := stores } events).visits[n]? = some v) :
    v.Travels s endpoints ∧ (∀ t ∈ v.turns, relies t.question t.answer) ∧
      v.steps = (movesOf n (moves s endpoints { state := stores } events)).map Move.step := by
  have member := List.mem_of_getElem? there
  refine ⟨after_sound (sound_start stores) events v member, after_heard (heard_start relies stores) gives v member, ?_⟩
  have taken : (after s endpoints { state := stores } events).stepsAt n = _ := steps_after { state := stores } events n
  rw [stepsAt, there] at taken
  exact taken

/-- A site that takes a request and then answers its questions, and does nothing else. -/
def servingOnly (site : Site) (r : Request) (answers : (q : Ask) → q.Answer) (turns : Nat) : List Event :=
  .arrives r :: answering site.visits.length (fun _ => answers) turns

/-- There all answers are those that are given to everything. -/
theorem gives_servingOnly (site : Site) (r : Request) (answers : (q : Ask) → q.Answer) (turns : Nat) :
    ∀ e ∈ site.servingOnly r answers turns, e.Gives fun q a => answers q = a := by
  intro e member
  rcases List.mem_cons.1 member with rfl | later
  · trivial
  · obtain ⟨k, -, rfl⟩ := List.mem_map.1 later
    exact fun q => rfl

variable (s endpoints) in
/-- **A request that is served without others** goes as it does in a world that gives the same answers. -/
theorem exists_servingOnly (site : Site) (r : Request) (answers : (q : Ask) → q.Answer) :
    ∃ turns v, (site.after s endpoints (site.servingOnly r answers turns)).visits = site.visits ++ [v] ∧
      v.request = r ∧ v.arrival = site.state ∧
      v.standing = .done (site.after s endpoints (site.servingOnly r answers turns)).state
        ((respond s endpoints r site.state).played answers).2 ∧
      (site.after s endpoints (site.servingOnly r answers turns)).state =
        ((respond s endpoints r site.state).played answers).1 := by
  have alone : ∀ (x : Step ServiceState (Option Reply)) (arrival : ServiceState) (taken : List (Turn ServiceState)),
      ∃ turns v, (after s endpoints ⟨x.state, site.visits ++ [⟨r, arrival, taken, x⟩]⟩
          (answering site.visits.length (fun _ => answers) turns)) = ⟨(x.played answers).1, site.visits ++ [v]⟩ ∧
        v.request = r ∧ v.arrival = arrival ∧ v.standing = .done (x.played answers).1 (x.played answers).2 := by
    intro x arrival taken
    induction x generalizing taken with
    | done st reply => exact ⟨0, _, rfl, rfl, rfl, rfl⟩
    | ask left q resume ih =>
      obtain ⟨turns, v, served, request, arrived, ended⟩ := ih (answers q) left (taken ++ [⟨left, q, answers q, left⟩])
      refine ⟨turns + 1, v, ?_, request, arrived, ended⟩
      have next_eq : next s endpoints ⟨left, site.visits ++ [⟨r, arrival, taken, .ask left q resume⟩]⟩
          (.answered site.visits.length answers) =
          ⟨(resume (answers q) left).state,
            site.visits ++ [⟨r, arrival, taken ++ [⟨left, q, answers q, left⟩], resume (answers q) left⟩]⟩ := by
        simp [next, moved?, Visit.resume?, place]
      rw [answering_succ, after, List.foldl_cons]
      change after s endpoints (next s endpoints ⟨left, _⟩ _) _ = _
      rw [next_eq]
      exact served
  obtain ⟨turns, v, served, request, arrived, ended⟩ := alone (respond s endpoints r site.state) site.state []
  have first : after s endpoints site (site.servingOnly r answers turns) =
      ⟨((respond s endpoints r site.state).played answers).1, site.visits ++ [v]⟩ := served
  refine ⟨turns, v, ?_⟩
  rw [first]
  exact ⟨rfl, request, arrived, ended, rfl⟩

variable (s endpoints) in
/-- **Two requests that are served one after the other,** from the start: the second finds what the first has left. -/
theorem exists_servingTwo (stores : ServiceState) (r r' : Request) (answers : (q : Ask) → q.Answer) :
    ∃ first more v v', (∀ e ∈ first ++ more, Event.Gives (fun q a => answers q = a) e) ∧
      (after s endpoints { state := stores } first).visits = [v] ∧ v.request = r ∧
      (∃ st, v.standing = .done st ((respond s endpoints r stores).played answers).2) ∧
      (after s endpoints { state := stores } (first ++ more)).visits = [v, v'] ∧ v'.request = r' ∧
      v'.arrival = ((respond s endpoints r stores).played answers).1 ∧
      ∃ st, v'.standing =
        .done st ((respond s endpoints r' ((respond s endpoints r stores).played answers).1).played answers).2 := by
  obtain ⟨turns, v, visits, request, -, ended, state⟩ :=
    exists_servingOnly s endpoints { state := stores } r answers
  have given := gives_servingOnly { state := stores } r answers turns
  generalize servingOnly { state := stores } r answers turns = first at visits ended state given
  generalize reached : after s endpoints { state := stores } first = site at visits ended state
  obtain ⟨turns', v', visits', request', arrival', ended', -⟩ := exists_servingOnly s endpoints site r' answers
  rw [state] at arrival' ended'
  refine ⟨first, site.servingOnly r' answers turns', v, v', ?_, ?_, request, ⟨_, ended⟩, ?_, request', arrival',
    ⟨_, ended'⟩⟩
  · intro e member
    rcases List.mem_append.1 member with early | late
    · exact given e early
    · exact gives_servingOnly site _ _ _ e late
  · rw [reached]
    exact visits
  · rw [after, List.foldl_append]
    change (after s endpoints (after s endpoints _ first) _).visits = [v, v']
    rw [reached, visits', visits]
    rfl

/-- A visit stands still where its moves change nothing. -/
theorem unchanging_moves_iff {ms : List Move} :
    Unchanging (ms.map Move.step) ↔ ∀ m ∈ ms, m.after = m.before := by
  simp [Unchanging, Move.step]

end Site

end BearerGate
