import BearerGate.KeySet.Document
import BearerGate.Log
import BearerGate.Token.Validator

/-!
# The cache of signing keys

The cache holds, for each issuer it is registered for, the keys of the last document that could be
fetched.  It is a state machine that never waits: a **call** is answered at once or joins the one fetch
that its issuer may have under way, and when that fetch **settles**, everyone who waits for it is
answered, in the order of joining.

* `KeyCache.start` begins a call.  A key that is in a set younger than the time to live is a hit.  Any
  other search is a miss; it is refused without a fetch only if the set is young, no fetch is under way,
  and the last fetch began less than the cooldown ago.
* `KeyCache.settle` ends a fetch.  A document of the right shape replaces the set in one piece; after a
  failure the set stays as it was, and a search that had found its key in an expired set gets that key.

The rest of the program sees the cache through the list of **effects** that every event has: fetches to
be sent, answers, log entries and counts.

Working on a document takes a while, and several issuers can have documents that are worked on side by
side, turn by turn.  A record that is skipped at once takes one turn and a key that is imported takes two,
so each effect of a fetch that settles has a **turn**, counted from its end.
-/

namespace BearerGate

/-- **The usable keys of one document.** -/
structure KeySet where
  /-- Which fetch brought the document; no two fetches share a number. -/
  generation : Nat
  entries : List KeyEntry
  deriving Repr

/-- An entry of a key set, with the fetch that brought it. -/
structure FoundKey where
  entry : KeyEntry
  generation : Nat
  deriving Repr

namespace KeySet

def find? (s : KeySet) (keyId : String) : Option FoundKey :=
  (s.entries.find? (·.keyId = keyId)).map (⟨·, s.generation⟩)

def keyIds (s : KeySet) : List String := s.entries.map (·.keyId)

end KeySet

/-! ### From a document to a key set -/

/-- The entries collected from the records of a document, and what there is to report, each entry of
the log with its turn. -/
structure Collected where
  entries : List KeyEntry := []
  log : List (Nat × LogEntry) := []
  /-- The turns that were taken so far. -/
  turns : Nat := 0

namespace Collected

/-- Passes over a record; `turns` says how long that takes. -/
def skip (c : Collected) (turns : Nat) : Collected := { c with turns := c.turns + turns }

/-- Reports something some turns from now. -/
def report (c : Collected) (turn : Nat) (e : LogEntry) : Collected :=
  { c with log := c.log ++ [(c.turns + turn, e)] }

/-- Takes one more record into account.  Of two usable keys with one key id the first is kept. -/
def add (importKey : KeyImport) (issuer : String) (c : Collected) (r : KeyRecord) : Collected :=
  match r.verdict importKey with
  | .otherUse => c.skip 1
  | .withoutKeyId =>
    (c.report 0 (.texts .debug "Skipping key without kid" [("issuer", issuer), ("kty", r.kty)])).skip 1
  | .unsupported keyId =>
    (c.report 0 (.make .debug "Skipping key with unsupported algorithm"
      [("issuer", some (.string issuer)), ("kid", some (.string keyId)), ("alg", r.alg.map .string)])).skip 1
  | .notImportable keyId =>
    (c.report 1 (.texts .warn "Skipping key that could not be imported"
      [("issuer", issuer), ("kid", keyId)])).skip 2
  | .usable entry =>
    if c.entries.any (·.keyId = entry.keyId) then
      (c.report 2 (.texts .warn "Duplicate kid in key set; keeping the first"
        [("issuer", issuer), ("kid", entry.keyId)])).skip 2
    else { c with entries := c.entries ++ [entry] }.skip 2

end Collected

/-- **The usable keys of the records of a document,** with what there is to report. -/
def collectKeys (importKey : KeyImport) (issuer : String) (records : List KeyRecord) : Collected :=
  records.foldl (Collected.add importKey issuer) {}

namespace KeyCache

/-! ### Settings and state -/

/-- How a cache is set up.  Times are in milliseconds. -/
structure Settings where
  /-- The issuers and the addresses of their documents; the last address of an issuer counts. -/
  sources : Table String
  /-- The age at which a set is expired; 0 for never. -/
  ttl : Number := 0
  /-- How long a search for an unknown key causes no fetch after the last one began; 0 for not at all. -/
  cooldown : Number := 0
  /-- How long a fetch may take. -/
  fetchTimeout : Number := 5000
  importKey : KeyImport := KeyRecord.publicKey?

namespace Settings

/-- The address of an issuer's document, if the issuer is registered. -/
def address? (s : Settings) (issuer : String) : Option String :=
  Table.get? s.sources.reverse issuer

/-- A timer can be set only to a whole number of milliseconds below `2^32`; without one no fetch is
ever sent. -/
def canFetch (s : Settings) : Bool :=
  match s.fetchTimeout.toNat? with
  | some ms => ms < 4294967296
  | none => false

end Settings

/-- How often what happened. -/
structure Stats where
  hits : Nat := 0
  misses : Nat := 0
  fetches : Nat := 0
  failures : Nat := 0
  deriving DecidableEq, Repr

/-- What a caller waits for. -/
inductive Want where
  /-- A key; `fallback` is what an expired set has under its id. -/
  | key (keyId : String) (fallback : Option FoundKey)
  /-- The number of usable keys. -/
  | count
  deriving Repr

/-- A caller that waits for a fetch. -/
structure Waiter where
  caller : Nat
  want : Want
  deriving Repr

/-- A fetch that is under way. -/
structure Flight where
  /-- The number of the fetch. -/
  number : Nat
  /-- The fetch failed before it could be sent. -/
  doomed : Bool
  /-- Those who wait for it, in the order of joining. -/
  waiters : List Waiter
  deriving Repr

/-- What is known about one issuer. -/
structure IssuerState where
  keys : Option KeySet := none
  fetchedAt : Number := 0
  /-- When the last fetch began. -/
  lastAttempt : Number := 0
  flight : Option Flight := none
  deriving Repr

/-- **The state of the cache.** -/
structure State where
  issuers : Table IssuerState := []
  stats : Stats := {}

namespace State

/-- What is known about an issuer. -/
def issuer (st : State) (name : String) : IssuerState :=
  (Table.get? st.issuers name).getD {}

/-- Replaces what is known about an issuer. -/
def setIssuer (st : State) (name : String) (s : IssuerState) : State :=
  { st with issuers := Table.put st.issuers name s }

def countHit (st : State) : State := { st with stats.hits := st.stats.hits + 1 }
def countMiss (st : State) : State := { st with stats.misses := st.stats.misses + 1 }
def countFetch (st : State) : State := { st with stats.fetches := st.stats.fetches + 1 }
def countFailure (st : State) : State := { st with stats.failures := st.stats.failures + 1 }

end State

namespace IssuerState

/-- The set is at least as old as the time to live. -/
def isStale (s : IssuerState) (ttl now : Number) : Bool :=
  decide (0 < ttl) && decide (ttl ≤ now - s.fetchedAt)

/-- The last fetch began less than the cooldown ago. -/
def inCooldown (s : IssuerState) (cooldown now : Number) : Bool :=
  decide (0 < cooldown) && decide (now - s.lastAttempt < cooldown)

end IssuerState

/-! ### Calls, answers, effects -/

/-- A call on the cache. -/
inductive Call where
  | key (issuer keyId : String)
  | refresh (issuer : String)
  deriving Repr

/-- What a call comes to. -/
inductive CallAnswer where
  | key (found : Option FoundKey)
  | count (n : Nat)
  | unavailable (cause : Rejection)
  /-- A refresh was asked for an issuer that is not registered. -/
  | unregistered (issuer : String)
  deriving Repr

/-- How a fetch ends, as it is counted. -/
inductive FetchResult where
  | ok
  | error
  | invalid
  deriving DecidableEq, Repr

/-- How the outside ends a fetch: with a document (or nothing in its place), or not. -/
inductive FetchOutcome where
  | document (d : Option Json)
  | failed

/-- **What an event asks of the rest of the program.** -/
inductive Effect where
  | send (issuer address : String)
  | answer (caller : Nat) (a : CallAnswer)
  | log (e : LogEntry)
  | count (r : FetchResult)

/-- **An effect with its turn.** -/
structure TimedEffect where
  turn : Nat
  effect : Effect

/-- How many turns after the end of a fetch its waiters hear of it. -/
def waiterTurns : Nat := 4

/-- The answer to one waiter when its fetch has ended. -/
def answerWaiter (issuer : String) (result : Except Rejection KeySet) (w : Waiter) : List Effect :=
  match result, w.want with
  | .ok set, .key keyId _ => [.answer w.caller (.key (set.find? keyId))]
  | .ok set, .count => [.answer w.caller (.count set.entries.length)]
  | .error _, .key keyId (some found) =>
    [.log (.texts .warn "Serving expired key set after failed refresh"
        [("issuer", issuer), ("kid", keyId)]),
      .answer w.caller (.key (some found))]
  | .error cause, _ => [.answer w.caller (.unavailable cause)]

/-- The report of a fetch that brought nothing. -/
def fetchFailedLog (issuer address : String) : LogEntry :=
  .texts .warn "Key set fetch failed" [("issuer", issuer), ("url", address)]

/-- Joins the fetch that is under way, or begins one. -/
def load (s : Settings) (now : Number) (st : State) (issuer address : String) (w : Waiter) :
    State × List Effect :=
  let known := st.issuer issuer
  match known.flight with
  | some flight =>
    (st.setIssuer issuer { known with flight := some { flight with waiters := flight.waiters ++ [w] } },
      [])
  | none =>
    let st := st.countFetch
    let flight := { number := st.stats.fetches, doomed := !s.canFetch, waiters := [w] }
    let st := st.setIssuer issuer { known with lastAttempt := now, flight := some flight }
    if s.canFetch then (st, [.send issuer address])
    else (st.countFailure, [.count .error, .log (fetchFailedLog issuer address)])

/-- **Begins a call.** -/
def start (s : Settings) (now : Number) (st : State) (caller : Nat) (call : Call) :
    State × List Effect :=
  match call with
  | .key issuer keyId =>
    match s.address? issuer with
    | none =>
      (st, [.log (.texts .debug "Key lookup for unregistered issuer" [("issuer", issuer)]),
        .answer caller (.key none)])
    | some address =>
      let known := st.issuer issuer
      let cached := known.keys.bind (·.find? keyId)
      let stale := known.keys.isSome && known.isStale s.ttl now
      let young := known.keys.isSome && !stale
      match (if young then cached else none) with
      | some found => (st.countHit, [.answer caller (.key (some found))])
      | none =>
        let st := st.countMiss
        if young && known.flight.isNone && known.inCooldown s.cooldown now then
          (st, [.log (.texts .debug "Unknown kid during refresh cooldown"
              [("issuer", issuer), ("kid", keyId)]),
            .answer caller (.key none)])
        else
          load s now st issuer address ⟨caller, .key keyId (if stale then cached else none)⟩
  | .refresh issuer =>
    match s.address? issuer with
    | none => (st, [.answer caller (.unregistered issuer)])
    | some address => load s now st issuer address ⟨caller, .count⟩

/-- A fetch that has ended: the state it leaves, its effects in the order of their turns, the turn of
its end, and the result that its waiters get. -/
structure Conclusion where
  state : State
  effects : List TimedEffect := []
  turn : Nat := 0
  result : Except Rejection KeySet

/-- What a fetch that ends does to its issuer. -/
def conclude (s : Settings) (now : Number) (st : State) (issuer : String) (flight : Flight)
    (outcome : FetchOutcome) : Conclusion :=
  let known := { st.issuer issuer with flight := none }
  let address := (s.address? issuer).getD ""
  if flight.doomed then
    { state := st.setIssuer issuer known, result := .error (.keysUnreachable issuer) }
  else
    match outcome with
    | .failed =>
      { state := (st.setIssuer issuer known).countFailure
        effects := [⟨0, .count .error⟩, ⟨0, .log (fetchFailedLog issuer address)⟩]
        result := .error (.keysUnreachable issuer) }
    | .document document =>
      match keyRecords document with
      | .error faults =>
        { state := (st.setIssuer issuer known).countFailure
          effects := [⟨0, .count .invalid⟩,
            ⟨0, .log (.make .warn "Key set document has an unexpected shape"
              [("issuer", some (.string issuer)), ("issues", some (.nat faults))])⟩]
          result := .error (.keysMisshapen issuer) }
      | .ok records =>
        let collected := collectKeys s.importKey issuer records
        let set : KeySet := ⟨flight.number, collected.entries⟩
        { state := st.setIssuer issuer { known with keys := some set, fetchedAt := now }
          effects := collected.log.map (fun (turn, e) => ⟨turn, .log e⟩) ++
            [⟨collected.turns, .count .ok⟩,
              ⟨collected.turns, .log (.make .info "Key set refreshed"
                [("issuer", some (.string issuer)), ("keyCount", some (.nat set.entries.length))])⟩]
          turn := collected.turns
          result := .ok set }

/-- **Ends the fetch of an issuer;** without one under way nothing happens. -/
def settle (s : Settings) (now : Number) (st : State) (issuer : String) (outcome : FetchOutcome) :
    State × List TimedEffect :=
  match (st.issuer issuer).flight with
  | none => (st, [])
  | some flight =>
    let c := conclude s now st issuer flight outcome
    (c.state, c.effects ++
      (flight.waiters.flatMap (answerWaiter issuer c.result)).map (⟨c.turn + waiterTurns, ·⟩))

/-! ### What the cache shows without being asked to fetch -/

/-- What `peek` shows of a registered issuer. -/
structure Peek where
  keyIds : List String
  fetchedAt : Option Instant
  deriving Repr

/-- **The key ids that are held for an issuer,** and since when; nothing for an unregistered one. -/
def peek (s : Settings) (st : State) (issuer : String) : Option Peek :=
  (s.address? issuer).map fun _ =>
    let known := st.issuer issuer
    match known.keys with
    | none => ⟨[], none⟩
    | some set => ⟨set.keyIds, some (.ofMillis known.fetchedAt)⟩

/-- The message about an issuer that is not registered. -/
def unregisteredMessage (issuer : String) : String :=
  "Issuer is not registered with the key set cache: " ++ issuer

end KeyCache

end BearerGate
