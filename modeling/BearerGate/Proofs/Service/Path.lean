import BearerGate.Service.Task

/-!
# Paths of tasks

A task under way takes **turns** with the rest of the world: it hands the state back with a question, and
goes on from whatever state it is given with the answer.  `Step.Reaches` follows a task along some turns,
with any answers and any states in between, to where it then stands; so it covers every world that the
task can be run in (`Step.reaches_run`), and tasks that never end.

A **contract** says what a task may do at each of its own steps, as long as the world gives it answers of
a certain kind: how it may change the state, and which questions it may ask.  `Step.Within` says that a
task keeps to a contract, whatever happens in between, and with which values it can end.
-/

namespace BearerGate

variable {σ α β : Type}

/-! ### Tasks that follow each other -/

namespace Step

@[simp]
theorem bind_done (f : α → σ → Step σ β) (s : σ) (a : α) : (done s a).bind f = f a s := rfl

@[simp]
theorem bind_ask (f : α → σ → Step σ β) (s : σ) (q : Ask) (resume : q.Answer → σ → Step σ α) :
    (ask s q resume).bind f = ask s q fun answer s => (resume answer s).bind f := rfl

theorem bind_pure (x : Step σ α) : (x.bind fun a s => done s a) = x := by
  induction x with
  | done s a => rfl
  | ask s q resume ih =>
    rw [bind_ask]
    congr 1
    funext answer s'
    exact ih answer s'

theorem bind_assoc {γ : Type} (x : Step σ α) (f : α → σ → Step σ β) (g : β → σ → Step σ γ) :
    (x.bind f).bind g = x.bind fun a s => (f a s).bind g := by
  induction x with
  | done s a => rfl
  | ask s q resume ih =>
    rw [bind_ask, bind_ask, bind_ask]
    congr 1
    funext answer s'
    exact ih answer s'

/-- The state that a task has handed back. -/
def state : Step σ α → σ
  | done s _ => s
  | ask s _ _ => s

/-- The question that a task waits for the answer to, unless it has ended. -/
def question? : Step σ α → Option Ask
  | done _ _ => none
  | ask _ q _ => some q

end Step

namespace Task

instance : LawfulMonad (Task σ) :=
  LawfulMonad.mk' (Task σ)
    (fun t => funext fun s => Step.bind_pure (t s))
    (fun _ _ => rfl)
    (fun t f g => funext fun s => Step.bind_assoc (t s) (fun a => f a) fun b => g b)

theorem bind_apply (t : Task σ α) (f : α → Task σ β) (s : σ) :
    (t >>= f) s = (t s).bind fun a => f a := rfl

/-- The state is read at once. -/
theorem get_bind (f : σ → Task σ β) (s : σ) : (get >>= f) s = f s s := rfl

/-- A change of the state is made at once. -/
theorem modifyGet_bind (f : σ → σ × α) (g : α → Task σ β) (s : σ) :
    (modifyGet f >>= g) s = g (f s).2 (f s).1 := rfl

end Task

/-! ### Paths -/

/-- **A turn:** the state handed back with a question, and the state given with the answer. -/
structure Turn (σ : Type) where
  left : σ
  question : Ask
  answer : question.Answer
  back : σ

/-- **A task gets somewhere in some turns.** -/
inductive Step.Reaches : Step σ α → List (Turn σ) → Step σ α → Prop
  | here (x : Step σ α) : x.Reaches [] x
  | turn {s s' : σ} {q : Ask} {resume : q.Answer → σ → Step σ α} {answer : q.Answer}
      {turns : List (Turn σ)} {y : Step σ α} (rest : (resume answer s').Reaches turns y) :
    (Step.ask s q resume).Reaches (⟨s, q, answer, s'⟩ :: turns) y

/-- The state that a task was given last, having begun with a state. -/
def lastGiven (s : σ) : List (Turn σ) → σ
  | [] => s
  | t :: turns => lastGiven t.back turns

theorem lastGiven_append (s : σ) (first rest : List (Turn σ)) :
    lastGiven s (first ++ rest) = lastGiven (lastGiven s first) rest := by
  induction first generalizing s with
  | nil => rfl
  | cons t first ih => exact ih t.back

namespace Step

/-- A path goes on with one more turn. -/
theorem Reaches.snoc {x : Step σ α} {turns : List (Turn σ)} {s : σ} {q : Ask}
    {resume : q.Answer → σ → Step σ α} (path : x.Reaches turns (ask s q resume)) (answer : q.Answer)
    (s' : σ) : x.Reaches (turns ++ [⟨s, q, answer, s'⟩]) (resume answer s') := by
  generalize stand : ask s q resume = y at path
  induction path with
  | here x =>
    subst stand
    exact .turn (.here _)
  | turn rest ih => exact .turn (ih stand)

/-- **Where two tasks after each other stand:** still in the first, or the first has ended. -/
theorem reaches_bind {x : Step σ α} {f : α → σ → Step σ β} {turns : List (Turn σ)} {y : Step σ β}
    (path : (x.bind f).Reaches turns y) :
    (∃ s q resume, x.Reaches turns (ask s q resume) ∧ y = (ask s q resume).bind f) ∨
      ∃ first rest s a, turns = first ++ rest ∧ x.Reaches first (done s a) ∧ (f a s).Reaches rest y := by
  -- The induction is on the first task; a path through it loses its first turn with each step.
  induction x generalizing turns with
  | done s a => exact .inr ⟨[], turns, s, a, rfl, .here _, path⟩
  | ask s q resume ih =>
    rw [bind_ask] at path
    cases path with
    | here => exact .inl ⟨s, q, resume, .here _, rfl⟩
    | @turn _ s' _ _ answer turns _ rest =>
      rcases ih answer s' rest with
        ⟨t, q', resume', before, stands⟩ | ⟨first, rest', t, a, rfl, ended, after⟩
      · exact .inl ⟨t, q', resume', .turn before, stands⟩
      · exact .inr ⟨_, rest', t, a, rfl, .turn ended, after⟩

/-- Two tasks after each other end when the second does. -/
theorem reaches_bind_done {x : Step σ α} {f : α → σ → Step σ β} {turns : List (Turn σ)} {s : σ} {b : β}
    (path : (x.bind f).Reaches turns (done s b)) :
    ∃ first rest t a, turns = first ++ rest ∧ x.Reaches first (done t a) ∧
      (f a t).Reaches rest (done s b) := by
  rcases reaches_bind path with ⟨t, q, resume, -, stands⟩ | ended
  · cases stands
  · exact ended

/-- **A run in a world is a path,** and its turns have answers of that world. -/
theorem reaches_run {w : Type} (answer : (q : Ask) → StateM w q.Answer) (load : StateM w σ)
    (store : σ → StateM w Unit) (x : Step σ α) (world : w) :
    ∃ turns s, x.Reaches turns (done s (x.run answer load store world).1) ∧
      ∀ t ∈ turns, ∃ world', (answer t.question world').1 = t.answer := by
  induction x generalizing world with
  | done s a => exact ⟨[], s, .here _, by simp⟩
  | ask s q resume ih =>
    obtain ⟨turns, s', path, answered⟩ := ih (answer q (store s world).2).1
      (load (answer q (store s world).2).2).1 (load (answer q (store s world).2).2).2
    refine ⟨_, s', .turn path, ?_⟩
    intro t member
    rcases List.mem_cons.1 member with rfl | later
    · exact ⟨_, rfl⟩
    · exact answered t later

/-- **Every task can end.** -/
theorem exists_done (x : Step σ α) : ∃ turns s a, x.Reaches turns (done s a) := by
  induction x with
  | done s a => exact ⟨[], s, a, .here _⟩
  | ask s q resume ih =>
    obtain ⟨answer⟩ : Nonempty q.Answer := by
      cases q with
      | time => exact ⟨(0 : Number)⟩
      | timer => exact ⟨(0 : Int)⟩
      | requestNumber => exact ⟨(0 : Nat)⟩
      | key _ => exact ⟨KeyAnswer.absent⟩
      | refreshKeys => exact ⟨KeyCache.CallAnswer.count 0⟩
      | heldKeys => exact ⟨⟨[], none⟩⟩
      | keyStats => exact ⟨({} : KeyCache.Stats)⟩
      | call _ => exact ⟨({ reply := none } : CallEnd)⟩
      | log _ => exact ⟨()⟩
      | record _ => exact ⟨()⟩
      | metricsText => exact ⟨""⟩
    obtain ⟨turns, t, a, path⟩ := ih answer s
    exact ⟨_, t, a, .turn path⟩

end Step

/-! ### Contracts -/

/-- **What a task may do,** as long as the world answers in a certain way. -/
structure Contract (σ : Type) where
  /-- The answers that the world gives. -/
  relies : (q : Ask) → q.Answer → Prop
  /-- How the task may change the state in a step. -/
  keeps : σ → σ → Prop
  /-- The questions that it may ask. -/
  asks : Ask → Prop
  refl : ∀ s, keeps s s
  trans : ∀ {s t u}, keeps s t → keeps t u → keeps s u

/-- **A task keeps to a contract,** having been given a state, and ends only with certain values. -/
def Step.Within (c : Contract σ) (post : α → Prop) (s : σ) : Step σ α → Prop
  | .done t a => c.keeps s t ∧ post a
  | .ask t q resume =>
    c.keeps s t ∧ c.asks q ∧ ∀ answer, c.relies q answer → ∀ u, (resume answer u).Within c post u

/-- A task that keeps to a contract, wherever it begins. -/
def Task.Within (c : Contract σ) (post : α → Prop) (t : Task σ α) : Prop := ∀ s, (t s).Within c post s

namespace Step.Within

variable {c : Contract σ} {post : α → Prop}

theorem keeps_state {s : σ} {x : Step σ α} (within : x.Within c post s) : c.keeps s x.state := by
  cases x with
  | done t a => exact within.1
  | ask t q resume => exact within.1

theorem before {s t : σ} {x : Step σ α} (kept : c.keeps s t) (within : x.Within c post t) :
    x.Within c post s := by
  cases x with
  | done u a => exact ⟨c.trans kept within.1, within.2⟩
  | ask u q resume => exact ⟨c.trans kept within.1, within.2⟩

theorem mono {post' : α → Prop} (weaker : ∀ a, post a → post' a) {s : σ} {x : Step σ α}
    (within : x.Within c post s) : x.Within c post' s := by
  induction x generalizing s with
  | done t a => exact ⟨within.1, weaker a within.2⟩
  | ask t q resume ih =>
    exact ⟨within.1, within.2.1, fun answer given u => ih answer u (within.2.2 answer given u)⟩

theorem bind {post' : β → Prop} {f : α → σ → Step σ β} (next : ∀ a, post a → Task.Within c post' (f a))
    {s : σ} {x : Step σ α} (within : x.Within c post s) : (x.bind f).Within c post' s := by
  induction x generalizing s with
  | done t a => exact before within.1 (next a within.2 t)
  | ask t q resume ih =>
    exact ⟨within.1, within.2.1, fun answer given u => ih answer u (within.2.2 answer given u)⟩

/-- **Wherever a task gets,** it still keeps to its contract, from the state that it was given last. -/
theorem of_reaches {s : σ} {x y : Step σ α} {turns : List (Turn σ)} (path : x.Reaches turns y)
    (within : x.Within c post s) (answers : ∀ t ∈ turns, c.relies t.question t.answer) :
    y.Within c post (lastGiven s turns) := by
  -- Each turn hands the task a new state, and that is where the contract starts again.
  induction path generalizing s with
  | here x => exact within
  | @turn t u q resume answer turns y rest ih =>
    have given : c.relies q answer := answers ⟨t, q, answer, u⟩ List.mem_cons_self
    exact ih (within.2.2 answer given u) fun t member => answers t (List.mem_cons_of_mem _ member)

/-- What a task that keeps to a contract asks is what the contract lets it ask. -/
theorem asks_of_question {s : σ} {x : Step σ α} (within : x.Within c post s) {q : Ask}
    (asked : x.question? = some q) : c.asks q := by
  cases x with
  | done t a => cases asked
  | ask t q' resume =>
    cases asked
    exact within.2.1

end Step.Within

namespace Task.Within

variable {c : Contract σ} {post : α → Prop}

theorem pure {a : α} (holds : post a) : Task.Within c post (Pure.pure a : Task σ α) :=
  fun s => ⟨c.refl s, holds⟩

theorem bind {post' : β → Prop} {t : Task σ α} {f : α → Task σ β} (first : t.Within c post)
    (next : ∀ a, post a → (f a).Within c post') : Task.Within c post' (t >>= f) :=
  fun s => (first s).bind next

theorem mono {post' : α → Prop} {t : Task σ α} (within : t.Within c post)
    (weaker : ∀ a, post a → post' a) : t.Within c post' :=
  fun s => (within s).mono weaker

theorem map {post' : β → Prop} {t : Task σ α} {f : α → β} (within : t.Within c post)
    (holds : ∀ a, post a → post' (f a)) : Task.Within c post' (f <$> t) := by
  rw [← bind_pure_comp]
  exact within.bind fun a there => .pure (holds a there)

/-- Asking what the contract lets one ask. -/
theorem ask {q : Ask} (allowed : c.asks q) : Task.Within c (c.relies q) (Task.ask q : Task σ q.Answer) :=
  fun s => ⟨c.refl s, allowed, fun _ given u => ⟨c.refl u, given⟩⟩

theorem get : Task.Within c (fun _ => True) (Task.get : Task σ σ) := fun s => ⟨c.refl s, trivial⟩

/-- A change of the state that the contract allows. -/
theorem modifyGet {f : σ → σ × α} (kept : ∀ s, c.keeps s (f s).1) :
    Task.Within c (fun _ => True) (Task.modifyGet f) :=
  fun s => ⟨kept s, trivial⟩

end Task.Within

/-- A contract that lets a task ask everything but the answers of other services. -/
def Contract.Liberal (c : Contract σ) : Prop := ∀ q, (∀ call, q ≠ .call call) → c.asks q

/-- Logging a list of entries, where one may log. -/
theorem Task.Within.logEach {c : Contract σ} (logs : ∀ e, c.asks (.log e)) (es : List LogEntry) :
    Task.Within c (fun _ => True) (Task.logAll es : Task σ Unit) := by
  induction es with
  | nil => exact .pure trivial
  | cons e es ih => exact Task.Within.bind (.ask (logs e)) fun _ _ => ih

namespace Task.Within

variable {c : Contract σ} (liberal : c.Liberal)
include liberal

theorem time : Task.Within c (c.relies .time) (Task.time : Task σ Number) :=
  ask (liberal .time (by simp))

theorem timer : Task.Within c (fun _ => True) (Task.timer : Task σ Int) :=
  (ask (liberal .timer (by simp))).mono fun _ _ => trivial

theorem log (e : LogEntry) : Task.Within c (fun _ => True) (Task.log e : Task σ Unit) :=
  (ask (liberal (.log e) (by simp))).mono fun _ _ => trivial

theorem logAll (es : List LogEntry) : Task.Within c (fun _ => True) (Task.logAll es : Task σ Unit) :=
  logEach (fun e => liberal (.log e) (by simp)) es

theorem record (e : MetricEvent) : Task.Within c (fun _ => True) (Task.record e : Task σ Unit) :=
  (ask (liberal (.record e) (by simp))).mono fun _ _ => trivial

end Task.Within

end BearerGate
