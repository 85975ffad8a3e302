import BearerGate.KeySet.Cache
import BearerGate.Script

/-!
# A cache at work

A session runs a cache against a clock and a scripted issuer.  Calls come in groups: all calls of a
group begin, in order, before any fetch makes progress; then the fetches that are under way take their
time, in the order in which they began; then they end.  Those that were answered end together, and their
effects come turn by turn; those that were never answered end after them, one by one.  A group of one call
is the plain case of a caller that waits for its answer.
-/

namespace BearerGate

open KeyCache

/-- **What a scripted issuer does with a fetch.** -/
inductive FetchReaction where
  | document (d : Option Json)
  | fail
  /-- Never answers; the fetch fails when its timer runs out. -/
  | hang

namespace FetchReaction

def outcome : FetchReaction → FetchOutcome
  | document d => .document d
  | fail | hang => .failed

/-- Whether a fetch ends only after all those that are answered. -/
def isLate : FetchReaction → Bool
  | hang => true
  | _ => false

end FetchReaction

/-- One step of a scripted issuer. -/
structure FetchStep where
  /-- How long it takes, in milliseconds. -/
  delay : Number := 0
  reaction : FetchReaction

/-- **What happens at the beginning of a group.** -/
inductive Opening where
  | call (c : Call)
  /-- Time passes before the next call. -/
  | wait (ms : Number)
  deriving Repr

/-- **A cache with its clock, its issuer and what it has caused so far.** -/
structure KeySession where
  settings : KeyCache.Settings
  clock : Number
  script : Script FetchStep
  state : KeyCache.State := {}
  /-- The log, the counts and the fetched addresses, the latest last. -/
  log : List LogEntry := []
  counts : List FetchResult := []
  addresses : List String := []

namespace KeySession

/-- Takes note of effects and gives the answers among them. -/
def absorb (s : KeySession) (effects : List Effect) : KeySession × List (Nat × CallAnswer) :=
  effects.foldl
    (fun (s, answers) effect =>
      match effect with
      | .send _ address => ({ s with addresses := s.addresses ++ [address] }, answers)
      | .answer caller a => (s, answers ++ [(caller, a)])
      | .log e => ({ s with log := s.log ++ [e] }, answers)
      | .count r => ({ s with counts := s.counts ++ [r] }, answers))
    (s, [])

/-- Lets time pass. -/
def advance (s : KeySession) (ms : Number) : KeySession := { s with clock := s.clock + ms }

/-- Begins a group, its calls numbered from a first number. -/
def begin (s : KeySession) : (caller : Nat) → List Opening → KeySession × List (Nat × CallAnswer)
  | _, [] => (s, [])
  | caller, .wait ms :: rest => (s.advance ms).begin caller rest
  | caller, .call c :: rest =>
    let (state, effects) := KeyCache.start s.settings s.clock s.state caller c
    let (s, answers) := ({ s with state } : KeySession).absorb effects
    let (s, more) := s.begin (caller + 1) rest
    (s, answers ++ more)

/-- The fetches that are under way, each with its issuer, in the order in which they began. -/
def inFlight (s : KeySession) : List (String × Flight) :=
  let flights := s.state.issuers.filterMap fun i => i.2.flight.map (i.1, ·)
  (List.range (s.state.stats.fetches + 1)).flatMap fun n => flights.filter (·.2.number = n)

/-- Lets fetches take their time; gives how the outside ends each of them. -/
def play (s : KeySession) : List (String × Flight) → KeySession × List (String × FetchReaction)
  | [] => (s, [])
  | (issuer, flight) :: flights =>
    let (s, reaction) :=
      if flight.doomed then (s, FetchReaction.fail)
      else
        let (step, script) := s.script.next
        match step with
        | none => ({ s with script }, FetchReaction.fail)
        | some step => (({ s with script } : KeySession).advance step.delay, step.reaction)
    let (s, rest) := s.play flights
    (s, (issuer, reaction) :: rest)

/-- The fetches that end together: first all those that are answered, then each of the others alone. -/
def waves (ends : List (String × FetchReaction)) : List (List (String × FetchOutcome)) :=
  let (late, prompt) := ends.partition (·.2.isLate)
  (prompt :: late.map fun e => [e]).map fun wave => wave.map fun e => (e.1, e.2.outcome)

/-- Effects turn by turn; of one turn, in the order in which they are given. -/
def inTurns (effects : List TimedEffect) : List Effect :=
  let last := effects.foldl (fun n e => max n e.turn) 0
  (List.range (last + 1)).flatMap fun n => (effects.filter (·.turn = n)).map (·.effect)

/-- Ends fetches together. -/
def finish (s : KeySession) (ends : List (String × FetchOutcome)) :
    KeySession × List (Nat × CallAnswer) :=
  let (state, effects) := ends.foldl
    (fun (st, effects) (issuer, outcome) =>
      let (st, more) := KeyCache.settle s.settings s.clock st issuer outcome
      (st, effects ++ more))
    (s.state, [])
  ({ s with state } : KeySession).absorb (inTurns effects)

/-- Ends fetches wave after wave. -/
def finishAll (s : KeySession) : List (List (String × FetchOutcome)) → KeySession × List (Nat × CallAnswer)
  | [] => (s, [])
  | wave :: rest =>
    let (s, answers) := s.finish wave
    let (s, more) := s.finishAll rest
    (s, answers ++ more)

/-- The calls of a group. -/
def callsOf (openings : List Opening) : List Call :=
  openings.filterMap fun
    | .call c => some c
    | .wait _ => none

/-- **Runs a group.**  The answers are in the order of its calls. -/
def callAll (s : KeySession) (openings : List Opening) : KeySession × List CallAnswer :=
  let (s, first) := s.begin 0 openings
  let (s, ends) := s.play s.inFlight
  let (s, second) := s.finishAll (waves ends)
  let answers := first ++ second
  (s, (List.range (callsOf openings).length).filterMap fun n => (answers.find? (·.1 = n)).map (·.2))

/-- **Runs one call.** -/
def call (s : KeySession) (c : Call) : KeySession × CallAnswer :=
  let (s, answers) := s.callAll [.call c]
  (s, answers.headD (.key none))

/-- The answer to a search, as a validation takes it. -/
def keyAnswer : CallAnswer → KeyAnswer
  | .key (some found) => .found found.entry
  | .key none => .absent
  | .unavailable cause => .unavailable cause
  | .count _ | .unregistered _ => .absent

/-- **Searches for a key,** as a validation does. -/
def lookup (s : KeySession) (issuer keyId : String) : KeyAnswer × KeySession :=
  let (s, a) := s.call (.key issuer keyId)
  (keyAnswer a, s)

end KeySession

end BearerGate
