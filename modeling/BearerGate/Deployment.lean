import BearerGate.Http.Client
import BearerGate.KeySet.Session
import BearerGate.Service.Bare
import BearerGate.Service.Transport

/-!
# Services at work

A deployment runs services side by side on one clock, with one set of metrics, against scripted issuers
and scripted other hosts.  A call on a host goes to the script of that host if there is one, or else to
the service that is deployed under that name, or else it fails.

A service that is called runs in the middle of the one that calls it; the state of each is kept by the
deployment while its tasks wait.  Calls that go ever deeper, as between two gateways that lead to each
other, end as failures after a fixed number of hops.
-/

namespace BearerGate

/-- **A deployed service.** -/
structure Instance where
  name : String
  /-- Its reply to a request, if it can give one. -/
  respond : Request → Task ServiceState (Option Reply)
  /-- The issuer whose keys it checks tokens with. -/
  issuer : String
  keys : KeySession
  /-- Whether what its key cache has to report goes to the log. -/
  logsKeys : Bool := true
  /-- What the search for keys breaks down with, if it does. -/
  keyBreakdown : Option String := none
  state : ServiceState := {}
  /-- How many requests it has numbered. -/
  numbered : Nat := 0

/-- **Everything that is deployed,** with what it has caused so far. -/
structure Deployment where
  clock : Number
  instances : List Instance
  /-- The scripts of other hosts. -/
  hosts : Table (Script ResponseStep) := []
  metrics : Metrics := {}
  /-- The log, each entry with the name of its service. -/
  log : List (String × LogEntry) := []
  calls : List OutboundCall := []
  /-- Whether the client has given up the current request. -/
  closed : Bool := false

/-- What is done with a deployment. -/
abbrev Deployed (α : Type) : Type := StateM Deployment α

namespace Deployment

def find? (d : Deployment) (name : String) : Option Instance := d.instances.find? (·.name = name)

def update (d : Deployment) (name : String) (f : Instance → Instance) : Deployment :=
  { d with instances := d.instances.map fun i => if i.name = name then f i else i }

def record (d : Deployment) (e : MetricEvent) : Deployment := { d with metrics := d.metrics.record e }

def fetchResultName : KeyCache.FetchResult → String
  | .ok => "ok"
  | .error => "error"
  | .invalid => "invalid"

/-- Takes over what the key session of a service has caused, and leaves it clean. -/
def absorbKeys (d : Deployment) (i : Instance) (s : KeySession) : Deployment :=
  let d := s.counts.foldl (fun d r => d.record (.keySetFetch (fetchResultName r))) d
  let news := if i.logsKeys then s.log else []
  let d := { d with
    clock := s.clock
    log := d.log ++ news.map fun (e : LogEntry) => (i.name, e.tagged "component" "key-set-cache") }
  d.update i.name fun i => { i with keys := { s with log := [], counts := [], addresses := [] } }

/-- A call on the key cache of a service. -/
def keyCall (i : Instance) (c : KeyCache.Call) : Deployed KeyCache.CallAnswer := fun d =>
  let (s, a) := ({ i.keys with clock := d.clock } : KeySession).call c
  (a, d.absorbKeys i s)

/-- The name of the service that a host stands for. -/
def serviceOfHost (host : String) : String :=
  let cs := host.toList
  let ending := ".test".toList
  if ending.isSuffixOf cs then String.ofList (cs.take (cs.length - ending.length)) else host

/-- The request that a call sends to a service. -/
def requestOf (c : OutboundCall) : Except SendRefusal Request :=
  ({ method := c.method, target := targetOf c.url, headers := c.headers.entries, body := c.body } :
    Request).sent

/-- The reply that a caller sees. -/
def transportReply (r : Reply) : Option TransportReply :=
  (Headers.ofPairs? r.headers).map fun headers =>
    { status := r.status, headers, body := Text.Utf8.encode r.text }

/-- **Delivers a call;** `serve` runs a deployed service. -/
def deliver (serve : String → Request → Deployed (Option Reply)) (c : OutboundCall) : Deployed CallEnd := do
  modify fun d => { d with calls := d.calls ++ [c] }
  let host := c.url.hostText
  let d ← get
  match Table.get? d.hosts host with
  | some script =>
    let (step, script) := script.next
    let ending := ResponseStep.meet step d.closed
    let delay : Number := (step.map ResponseStep.delay).getD 0
    set ({ d with
      clock := d.clock + delay
      hosts := Table.put d.hosts host script
      closed := d.closed || ending.cancelled } : Deployment)
    pure ending
  | none =>
    match d.find? (serviceOfHost host), requestOf c with
    | some i, .ok r =>
      let reply ← serve i.name r
      let after ← get
      if after.closed then pure { reply := none, cancelled := true }
      else pure { reply := reply.bind transportReply }
    | _, _ => pure { reply := none, cancelled := d.closed }

/-- The reading of the nanosecond timer at a time in milliseconds, a whole number.  The product is
rounded like any other, so late in the calendar the timer has a coarse grain. -/
def timerReading (clock : Number) : Int := ((clock * 1000000).roundHalfUp.toInt?).getD 0

/-- **The answer to a question of a service's task.** -/
def answer (serve : String → Request → Deployed (Option Reply)) (name : String) :
    (q : Ask) → Deployed q.Answer
  | .time => fun d => (d.clock, d)
  | .timer => fun d => (timerReading d.clock, d)
  | .requestNumber => fun d =>
    let number := ((d.find? name).map (·.numbered)).getD 0 + 1
    (number, d.update name fun i => { i with numbered := number })
  | .key keyId => fun d =>
    match d.find? name with
    | none => (KeyAnswer.absent, d)
    | some i =>
      match i.keyBreakdown with
      | some why => (KeyAnswer.broken why, d)
      | none =>
        let (a, d) := keyCall i (.key i.issuer keyId) d
        (KeySession.keyAnswer a, d)
  | .refreshKeys => fun d =>
    match d.find? name with
    | none => (KeyCache.CallAnswer.unregistered name, d)
    | some i => keyCall i (.refresh i.issuer) d
  | .heldKeys => fun d =>
    (((d.find? name).bind fun i => KeyCache.peek i.keys.settings i.keys.state i.issuer).getD ⟨[], none⟩, d)
  | .keyStats => fun d => (((d.find? name).map fun i => i.keys.state.stats).getD {}, d)
  | .call c => deliver serve c
  | .log e => fun d => ((), { d with log := d.log ++ [(name, e)] })
  | .record e => fun d => ((), d.record e)
  | .metricsText => fun d => (d.metrics.render, d)

/-- **Has a service answer a request.**  `hops` bounds how deep calls may go. -/
def serve : (hops : Nat) → String → Request → Deployed (Option Reply)
  | 0, _, _ => pure none
  | hops + 1, name, r => do
    let d ← get
    match d.find? name with
    | none => pure none
    | some i =>
      let load : Deployed ServiceState := fun d => (((d.find? name).map (·.state)).getD {}, d)
      let store (s : ServiceState) : Deployed Unit := modify fun d =>
        d.update name fun i => { i with state := s }
      (i.respond r i.state).run (answer (serve hops) name) load store

/-- How deep calls may go. -/
def hopLimit : Nat := 100

/-- What one request from outside comes to. -/
structure Exchange where
  /-- Nothing if the client has given the request up. -/
  reply : Option Reply
  calls : List OutboundCall
  log : List (String × LogEntry)

/-- **Why a request from outside comes to nothing.** -/
inductive ExchangeFault where
  | unknownService
  | notSent (why : SendRefusal)
  /-- The service broke down over it. -/
  | brokeDown
  deriving DecidableEq, Repr

/-- **A request from outside** to a service, some time after the last one. -/
def exchange (name : String) (wait : Number) (r : Request) : Deployed (Except ExchangeFault Exchange) := do
  modify fun d => { d with clock := d.clock + wait, calls := [], log := [], closed := false }
  if ((← get).find? name).isNone then return .error .unknownService
  match r.sent with
  | .error why => return .error (.notSent why)
  | .ok r =>
    let reply ← serve hopLimit name r
    let d ← get
    if d.closed then return .ok { reply := none, calls := d.calls, log := d.log }
    else if reply.isNone then return .error .brokeDown
    else return .ok { reply, calls := d.calls, log := d.log }

end Deployment

/-- A deployed service of a configuration. -/
def Instance.ofConfig (name : String) (c : Config) (check : SignatureCheck) (clock : Number)
    (script : Script FetchStep) (products : List Members) (probes : Bool) : Option Instance :=
  match Service.ofConfig c check, Url.parse? c.auth.jwksUri none with
  | .ok service, some url =>
    let endpoints := c.serviceName.endpoints ++ (if probes then Endpoint.probes else [])
    let settings : KeyCache.Settings :=
      { sources := [(c.auth.issuer, url.href)], ttl := c.auth.jwksCacheTtlMs
        cooldown := c.auth.jwksRefreshCooldownMs, fetchTimeout := c.auth.jwksFetchTimeoutMs }
    some
      { name, respond := BearerGate.respond service endpoints, issuer := c.auth.issuer
        keys := { settings, clock, script }
        state := { products := .ofList products } }
  | _, _ => none

end BearerGate
