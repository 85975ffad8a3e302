import BearerGate.Service.Basic

/-!
# Health, readiness and metrics

Three routes that are open to everyone.  Health shows what the key cache holds and never changes it.
Readiness means that there is a key to check tokens with: if none is held, the keys are fetched first.
-/

namespace BearerGate

def statsJson (s : KeyCache.Stats) : Json :=
  .object [("hits", .nat s.hits), ("misses", .nat s.misses), ("fetches", .nat s.fetches),
    ("failures", .nat s.failures)]

/-- The time when keys were fetched, as health tells it; it has to be an instant. -/
def fetchTime (held : KeyCache.Peek) : Handling ServiceState Json :=
  match held.fetchedAt with
  | none => pure .null
  | some instant =>
    match instant.text? with
    | some text => pure (.string text)
    | none => Handling.fail (.crash Instant.invalidMessage)

/-- **What a service holds to check tokens with.** -/
def healthHandler : Handler := fun s _ => do
  let held ← Handling.ofTask (Task.ask .heldKeys)
  let stats ← Handling.ofTask (Task.ask .keyStats)
  let fetchedAt ← fetchTime held
  pure (.ofJson (.object [("status", .string "ok"), ("service", .string s.config.serviceName.name),
    ("keySet", .object [("issuer", .string s.config.auth.issuer), ("keyIds", .strings held.keyIds),
      ("fetchedAt", fetchedAt), ("stats", statsJson stats)])]))

def readyAnswer (count : Nat) : Answer :=
  .ofJson (.object [("status", .string "ready"), ("keyCount", .nat count)])

def notReadyAnswer (why : String) : Answer :=
  .ofStatus 503 (.object [("status", .string "not-ready"), ("error", .string why)])

/-- The answer after the keys have been fetched. -/
def readinessAfter : KeyCache.CallAnswer → Answer
  | .count n =>
    if n = 0 then notReadyAnswer "Issuer published no usable signing keys" else readyAnswer n
  | .unavailable cause => notReadyAnswer cause.message
  | .unregistered issuer => notReadyAnswer (KeyCache.unregisteredMessage issuer)
  | .key _ => notReadyAnswer ""

/-- **Whether a service can check tokens.** -/
def readyHandler : Handler := fun _ _ => do
  let held ← Handling.ofTask (Task.ask .heldKeys)
  if held.keyIds.length = 0 then
    let a ← Handling.ofTask (Task.ask .refreshKeys)
    pure (readinessAfter a)
  else pure (readyAnswer held.keyIds.length)

/-- **The metrics** in the text that a collector reads. -/
def metricsHandler : Handler := fun _ _ => do
  let text ← Handling.ofTask (Task.ask .metricsText)
  pure { headers := [("content-type", "text/plain; version=0.0.4")], payload := .text text }

end BearerGate
