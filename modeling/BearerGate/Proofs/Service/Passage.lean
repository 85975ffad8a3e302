import BearerGate.Proofs.Gate.Admission
import BearerGate.Proofs.Service.Conduct

/-!
# Passing the gate

The way of a request that is not open to everyone, cut where the gate has decided: `approach` leads up to
the **ruling**, and `onward` leads on from there.  A ruling that lets the request in goes on with what is
behind the gate (`letIn`); any other goes on without it, so `turnAway` and `breakDown` do not even mention
a handler.

`Vouched` says what it takes to be let in: the request's own token, accepted under the key that was
found for it at the time that was read then, for a caller who has what is required.
-/

namespace BearerGate

/-! ### The way, cut at the ruling -/

/-- **What the gate has decided** about a request, and what is known by then. -/
structure Ruling where
  id : String
  start : Int
  decision : Decision
  context : RequestContext

/-- The search for a key, as a task. -/
def searchKey {σ : Type} (keyId : String) : Task σ KeyAnswer := Task.ask (.key keyId)

/-- The gate, as a task. -/
def Gate.task {σ : Type} (g : Gate) (context : RequestContext) (requirement : Requirement) :
    Task σ (Decision × RequestContext) :=
  g.run searchKey Task.time context requirement

/-- **The way up to the ruling.** -/
def approach {σ : Type} (g : Gate) (requirement : Requirement) (r : Request) : Task σ Ruling := do
  let id ← requestId r
  let start ← Task.timer
  let result ← g.task (contextOf r id) requirement
  pure ⟨id, start, result.1, result.2⟩

/-- Where the answers to a request go out. -/
def Service.outlet (s : Service) (m : Option Match) (r : Request) (id : String) : Outlet where
  headers := s.corsHeaders r ++ [("x-request-id", id)]
  withholdsText := withholdsText m r.method

/-- The end of the way: sending the answer and counting the request. -/
def depart (s : Service) (m : Option Match) (r : Request) (ruling : Ruling)
    (result : Except Fault Draft) : Task ServiceState Reply := do
  let reply ← (s.outlet m r ruling.id).send r result
  let stop ← Task.timer
  countRequest r.method (routeLabel m) reply.status (durationBetween ruling.start stop)
  pure reply

/-- **The way of a request that is turned away.** -/
def turnAway (s : Service) (m : Option Match) (r : Request) (ruling : Ruling) (cause : Rejection)
    (last : Stage) : Task ServiceState Reply := do
  Task.record (.gateDecision "rejected" (some cause.reason.name))
  Task.log (.texts .warn "Request rejected by validation gate"
    [("reason", cause.reason.name), ("stage", last.name), ("path", Text.before '?' r.target)])
  let now ← Task.time
  depart s m r ruling (.ok (.ofRejection cause.toError r now))

/-- The way of a request whose key could not even be searched for. -/
def breakDown (s : Service) (m : Option Match) (r : Request) (ruling : Ruling) (why : String) :
    Task ServiceState Reply :=
  depart s m r ruling (.error (.crash why))

/-- **The way of a request that is let in.** -/
def letIn (s : Service) (m : Option Match) (r : Request) (ruling : Ruling) (caller : Principal) :
    Task ServiceState Reply := do
  Task.record (.gateDecision "authorized" none)
  Task.log (.make .debug "Request authorized"
    [("username", some (.string caller.username)),
      ("path", (m.map (·.endpoint.label)).map .string)])
  let result ← handle s m r ruling.context
  depart s m r ruling result

/-- **The way on from the ruling.** -/
def onward (s : Service) (m : Option Match) (r : Request) (ruling : Ruling) : Task ServiceState Reply :=
  match ruling.decision with
  | .authorized _ caller => letIn s m r ruling caller
  | .rejected cause last => turnAway s m r ruling cause last
  | .broken why => breakDown s m r ruling why

/-- **A request that needs something** goes up to the ruling and on from there. -/
theorem travel_eq {s : Service} {m : Option Match} {r : Request} {requirement : Requirement}
    (access : accessOf m = .needs requirement) :
    travel s m r = approach s.gate requirement r >>= onward s m r := by
  simp only [travel, approach, Gate.task, answerRequest, guard, access, bind_assoc, pure_bind]
  congr 1
  funext id
  congr 1
  funext start
  congr 1
  funext result
  obtain ⟨decision, context⟩ := result
  cases decision with
  | authorized claims caller =>
    simp only [onward, letIn, depart, bind_assoc, pure_bind]
    rfl
  | rejected cause last =>
    simp only [onward, turnAway, depart, bind_assoc, pure_bind]
    rfl
  | broken why =>
    simp only [onward, breakDown, depart, pure_bind]
    rfl

/-! ### Who is let in -/

/-- **The gate has vouched for a caller** on some turns: the request's own token was read, a key was
searched for and found, then the clock was read, and the token is accepted under that key at that time and
gives the caller what is required. -/
inductive Vouched {σ : Type} (g : Gate) (r : Request) (requirement : Requirement) (turns : List (Turn σ)) :
    Principal → Prop
  | intro {raw keyId : String} {t : Token} {entry : KeyEntry} {now : Number} {s₁ s₂ s₃ s₄ : σ}
      (own : bearerToken? (r.header? "authorization") = some raw) (written : Token.Written raw t)
      (answered : [⟨s₁, .key keyId, KeyAnswer.found entry, s₂⟩, ⟨s₃, .time, now, s₄⟩] <:+: turns)
      (accepted : Token.Accepted g.validator g.check t keyId entry now)
      (allowed : requirement.allows (t.claims.principal g.rolesSetting).roles = true) :
    Vouched g r requirement turns (t.claims.principal g.rolesSetting)

theorem Vouched.mono {σ : Type} {g : Gate} {r : Request} {requirement : Requirement}
    {turns more : List (Turn σ)} {caller : Principal} (part : turns <:+: more)
    (vouched : Vouched g r requirement turns caller) : Vouched g r requirement more caller := by
  cases vouched with
  | intro own written answered accepted allowed =>
    exact .intro own written (answered.trans part) accepted allowed

/-- A caller for whom the gate has vouched has one of the roles that are required. -/
theorem Vouched.role {σ : Type} {g : Gate} {r : Request} {role : String} {turns : List (Turn σ)}
    {caller : Principal} (vouched : Vouched g r (.anyOf [role]) turns caller) : role ∈ caller.roles := by
  cases vouched with
  | intro own written answered accepted allowed =>
    rcases Requirement.allows_iff.1 allowed with empty | ⟨role', required, there⟩
    · cases empty
    · rw [List.mem_singleton.1 required] at there
      exact there

/-- What a conclusion leaves in the context of a caller who is let in. -/
theorem principal_of_conclude {g : Gate} {context : RequestContext} {requirement : Requirement}
    {v : Validation} {claims : Claims} {caller : Principal}
    (authorized : (g.conclude context requirement v).1 = .authorized claims caller) :
    (g.conclude context requirement v).2.principal = some caller := by
  unfold Gate.conclude at authorized ⊢
  split at authorized
  · cases authorized
  · cases authorized
  · rename_i claims' ended
    dsimp only at authorized ⊢
    split at authorized
    · rename_i allowed
      cases authorized
      rw [if_pos allowed]
    · cases authorized

/-- **Where the gate authorizes a request, it vouches for its caller,** and leaves the caller in the
context. -/
theorem vouched_of_run {σ : Type} {g : Gate} {r : Request} {requirement : Requirement} {id : String}
    {s s' : σ} {turns : List (Turn σ)} {claims : Claims} {caller : Principal} {context : RequestContext}
    (path : (g.task (contextOf r id) requirement s).Reaches turns
      (.done s' (.authorized claims caller, context))) :
    Vouched g r requirement turns caller ∧ context.principal = some caller := by
  rw [Gate.task] at path
  cases own : (contextOf r id).token with
  | none =>
    rw [Gate.run_of_no_token _ _ _ _ _ (.inl own)] at path
    cases path
  | some raw =>
    by_cases filled : raw = ""
    · rw [Gate.run_of_no_token _ _ _ _ _ (.inr (by rw [own, filled]))] at path
      cases path
    cases planned : g.validator.plan g.check raw with
    | settled v =>
      rw [Gate.run_of_settled _ _ _ _ _ own filled planned] at path
      generalize ruled : g.conclude (contextOf r id) requirement v = result at path
      cases path
      have authorized := congrArg Prod.fst ruled
      have ended := (Gate.conclude_authorized_iff.1 authorized).1
      exact absurd ended (Validator.settled_result_ne_ok planned claims)
    | needsKey keyId resume =>
      rw [Gate.run_of_needsKey _ _ _ _ _ own filled planned] at path
      -- The gate takes exactly two turns: the search for the key, and the reading of the clock.
      rcases path with _ | @⟨s₁, s₂, _, _, answer, _, _, path⟩
      rcases path with _ | @⟨s₃, s₄, _, _, now, _, _, path⟩
      change (Step.done s₄ (g.conclude (contextOf r id) requirement (resume answer now))).Reaches _ _ at path
      generalize ruled : g.conclude (contextOf r id) requirement (resume answer now) = result at path
      cases path
      have authorized := congrArg Prod.fst ruled
      obtain ⟨t, entry, written, rfl, accepted, rfl, allowed⟩ := Gate.accepted_of_conclude planned authorized
      have context_eq := principal_of_conclude authorized
      rw [ruled] at context_eq
      exact ⟨.intro own written (List.infix_refl _) accepted allowed, context_eq⟩

/-- **A request whose way up ends with an authorization** is one that the gate vouches for. -/
theorem vouched_of_approach {σ : Type} {g : Gate} {r : Request} {requirement : Requirement} {s s' : σ}
    {turns : List (Turn σ)} {ruling : Ruling} {claims : Claims} {caller : Principal}
    (path : (approach g requirement r s).Reaches turns (.done s' ruling))
    (authorized : ruling.decision = .authorized claims caller) :
    Vouched g r requirement turns caller ∧ ruling.context.principal = some caller := by
  unfold approach at path
  rw [Task.bind_apply] at path
  obtain ⟨numbered, turns, s₁, id, rfl, -, path⟩ := Step.reaches_bind_done path
  rw [Task.bind_apply] at path
  obtain ⟨timed, turns, s₂, start, rfl, -, path⟩ := Step.reaches_bind_done path
  rw [Task.bind_apply] at path
  obtain ⟨decided, turns, s₃, result, rfl, gate, path⟩ := Step.reaches_bind_done path
  generalize ended : Step.done s' ruling = y at path
  cases path
  cases ended
  obtain ⟨decision, context⟩ := result
  cases authorized
  obtain ⟨vouched, known⟩ := vouched_of_run gate
  exact ⟨vouched.mono ⟨numbered ++ timed, [], by simp⟩, known⟩

end BearerGate
