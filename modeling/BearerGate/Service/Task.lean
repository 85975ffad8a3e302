import BearerGate.KeySet.Cache
import BearerGate.Metrics.Basic
import BearerGate.Service.Client

/-!
# Tasks

A handler is a **task**: it works on the state of its service and now and then asks the world around it
something, such as the time, a key, or the answer of another service.  While it waits for an answer it
holds no state: it hands the state back with the question and goes on from whatever state it is given
with the answer.  So between two questions a task is a single step, and any number of tasks can take
turns on one state.

`Ask` lists the questions and `Ask.Answer` the type of answer that each of them has.
-/

namespace BearerGate

/-- **A question to the world around a service.** -/
inductive Ask where
  /-- The time, in milliseconds. -/
  | time
  /-- The reading of the timer that durations are measured with, in nanoseconds. -/
  | timer
  /-- The next number of the service for a request. -/
  | requestNumber
  /-- The key that the issuer publishes under an id. -/
  | key (keyId : String)
  /-- A fetch of the issuer's keys. -/
  | refreshKeys
  /-- The key ids that are held, without a fetch. -/
  | heldKeys
  /-- What the key cache has counted. -/
  | keyStats
  /-- The end of a call on another service. -/
  | call (c : OutboundCall)
  | log (e : LogEntry)
  | record (e : MetricEvent)
  /-- The text of all metrics. -/
  | metricsText

/-- The type of the answer to a question. -/
def Ask.Answer : Ask → Type
  | time => Number
  | timer => Int
  | requestNumber => Nat
  | key _ => KeyAnswer
  | refreshKeys => KeyCache.CallAnswer
  | heldKeys => KeyCache.Peek
  | keyStats => KeyCache.Stats
  | call _ => CallEnd
  | log _ => Unit
  | record _ => Unit
  | metricsText => String

/-- **A task under way:** it has ended, or it waits for an answer.  Either way it has handed the state
back. -/
inductive Step (σ α : Type) where
  | done (state : σ) (value : α)
  | ask (state : σ) (question : Ask) (resume : question.Answer → σ → Step σ α)

namespace Step

variable {σ α β : Type}

/-- Goes on with another task when this one has ended. -/
def bind (f : α → σ → Step σ β) : Step σ α → Step σ β
  | done s a => f a s
  | ask s q resume => ask s q fun answer s => bind f (resume answer s)

/-- **Runs a task to its end** in a world that answers questions and keeps the state meanwhile. -/
def run {m : Type → Type} [Monad m] (answer : (q : Ask) → m q.Answer) (load : m σ)
    (store : σ → m Unit) : Step σ α → m α
  | done s a => do
    store s
    pure a
  | ask s q resume => do
    store s
    let a ← answer q
    let s ← load
    run answer load store (resume a s)

end Step

/-- **A task** on the state of a service. -/
def Task (σ α : Type) : Type := σ → Step σ α

namespace Task

variable {σ α β : Type}

instance : Monad (Task σ) where
  pure a := fun s => .done s a
  bind t f := fun s => (t s).bind f

/-- Asks a question. -/
def ask (q : Ask) : Task σ q.Answer := fun s => .ask s q fun a s => .done s a

/-- Looks at the state. -/
def get : Task σ σ := fun s => .done s s

/-- Changes the state in one step. -/
def modifyGet (f : σ → σ × α) : Task σ α := fun s => let (s, a) := f s; .done s a

def time : Task σ Number := ask .time

def timer : Task σ Int := ask .timer

def log (e : LogEntry) : Task σ Unit := ask (.log e)

def logAll (es : List LogEntry) : Task σ Unit := es.forM log

def record (e : MetricEvent) : Task σ Unit := ask (.record e)

end Task

/-- **A handler's way:** a task that may fail. -/
abbrev Handling (σ α : Type) : Type := ExceptT Fault (Task σ) α

namespace Handling

variable {σ α : Type}

def ofTask (t : Task σ α) : Handling σ α := ExceptT.lift t

def fail (f : Fault) : Handling σ α := throw f

def log (e : LogEntry) : Handling σ Unit := ofTask (Task.log e)

end Handling

end BearerGate
