import BearerGate.Proofs.Gate.Bearer
import BearerGate.Proofs.Gate.Stages
import BearerGate.Proofs.KeySet.Reply
import BearerGate.Proofs.Service.Ordering
import BearerGate.Proofs.Service.Twins

/-!
# What a rejection tells

Two requests that differ in nothing but their tokens, turned away for the same reason with the same message,
cannot be told apart by what comes back or by what is logged: whatever their tokens hold, whatever keys are
published, and whatever the key cache has been through.

Behind the ruling the ways of two such requests are twins (`twins_turnAway`), because nothing in them reads the token.
Before the ruling they are not, but there nothing is sent and nothing is logged, and all that is left of the token is
the cause, which is a reason, a message of a fixed list, and the stage that belongs to the reason
(`within_approach_reports`).
-/

namespace BearerGate

/-! ### Requests that differ in their tokens -/

/-- **Requests that are alike but for their tokens.** -/
structure Request.AlikeButToken (r r' : Request) : Prop where
  method : r'.method = r.method
  target : r'.target = r.target
  body : r'.body = r.body
  header? : ∀ name, name ≠ "authorization" → r'.header? name = r.header? name

/-- **The id of a request** that is given some numbers: its own, or that of the first number. -/
def Request.idAmong? (r : Request) (numbers : List Nat) : Option String :=
  match r.filledHeader? "request-id" with
  | some id => some id
  | none => numbers.head?.map numberedId

/-- **A request presents a token.** -/
def Request.Presents (r : Request) (raw : String) : Prop := bearerToken? (r.header? "authorization") = some raw

namespace Request.AlikeButToken

variable {r r' : Request} (alike : r.AlikeButToken r')
include alike

theorem filledHeader? {name : String} (other : name ≠ "authorization") :
    r'.filledHeader? name = r.filledHeader? name := by
  rw [Request.filledHeader?, Request.filledHeader?, alike.header? name other]

theorem idAmong? (numbers : List Nat) : r'.idAmong? numbers = r.idAmong? numbers := by
  rw [Request.idAmong?, Request.idAmong?, alike.filledHeader? (by decide)]

theorem routed? (endpoints : List Endpoint) : routed? endpoints r' = BearerGate.routed? endpoints r := by
  rw [BearerGate.routed?, BearerGate.routed?, alike.method, alike.target]

theorem outlet (s : Service) (m : Option Match) (id : String) : s.outlet m r' id = s.outlet m r id := by
  rw [Service.outlet, Service.outlet, Service.corsHeaders, Service.corsHeaders, alike.method,
    alike.filledHeader? (by decide)]

end Request.AlikeButToken

/-- What is presented is not empty, so the gate takes it for a token. -/
theorem Request.Presents.isSome {r : Request} {raw : String} (presents : r.Presents raw) :
    (contextOf r "").bearer?.isSome = true := by
  have filled : raw ≠ "" := by
    rintro rfl
    exact (bearerToken?_eq_some presents).1.ne_nil rfl
  have token : (contextOf r "").token = some raw := presents
  rw [RequestContext.bearer?, token, Option.bind_some, if_neg filled]
  rfl

/-! ### Behind the ruling -/

/-- The entry that is logged for a request that is turned away. -/
def rejectionEntry (reason : Reason) (last : Stage) (r : Request) : LogEntry :=
  .texts .warn "Request rejected by validation gate"
    [("reason", reason.name), ("stage", last.name), ("path", Text.before '?' r.target)]

section Away

variable {s : Service} {m : Option Match} {r r' : Request} {raw raw' : String} {cause cause' : Rejection}

/-- A rejection is reported by its reason and its message alone. -/
theorem report_congr {e e' : AuthError} (reason : e'.reason = e.reason) (message : e'.message = e.message) :
    e'.report = e.report := by
  obtain ⟨_, _, issuer⟩ := e
  obtain ⟨_, _, issuer'⟩ := e'
  cases reason
  cases message
  rfl

/-- The header that goes with a rejection depends on its reason, and on whether a token was presented. -/
theorem rejectionHeader_congr {e e' : AuthError} (reason : e'.reason = e.reason) (presented : Bool) :
    rejectionHeader e' presented = rejectionHeader e presented := by
  rw [rejectionHeader, rejectionHeader, challenge, challenge, reason]

/-- **What is sent for a cause** shows its reason and its message, and that a token was presented. -/
theorem ofRejection_alike (alike : r.AlikeButToken r') (presents : r.Presents raw) (presents' : r'.Presents raw')
    (reason : cause'.reason = cause.reason) (message : cause'.message = cause.message) (now : Number) :
    Draft.ofRejection cause'.toError r' now = .ofRejection cause.toError r now := by
  have report : cause'.toError.report = cause.toError.report := report_congr reason message
  have headers : cause'.toError.headers r' = cause.toError.headers r := by
    have header : rejectionHeader cause'.toError true = rejectionHeader cause.toError true :=
      rejectionHeader_congr reason true
    rw [AuthError.headers, AuthError.headers, presents.isSome, presents'.isSome, header]
  rw [Draft.ofRejection, Draft.ofRejection, Draft.ofReport, Draft.ofReport, report, headers, alike.target]

/-- **Requests that are turned away alike cannot be told apart any more.** -/
theorem twins_turnAway (alike : r.AlikeButToken r') (presents : r.Presents raw) (presents' : r'.Presents raw')
    (reason : cause'.reason = cause.reason) (message : cause'.message = cause.message) {ruling ruling' : Ruling}
    (id : ruling'.id = ruling.id) (last : Stage) :
    Task.Twins (turnAway s m r ruling cause last) (turnAway s m r' ruling' cause' last) := by
  unfold turnAway depart
  rw [reason, alike.target, alike.method, id, alike.outlet]
  refine .bind (.record _ _) fun _ => .bind (.log _) fun _ => .bind .time fun now => ?_
  rw [ofRejection_alike alike presents presents' reason message now]
  refine .bind (twins_sendDraft _ alike.target _) fun reply => .timer_bind fun stop stop' => ?_
  exact .bind (.record _ _) fun _ => .pure reply

/-- A request that is turned away has that logged. -/
theorem rejectionEntry_mem {ruling : Ruling} {last : Stage} {u st : ServiceState} {turns : List (Turn ServiceState)}
    {reply : Reply} (path : (turnAway s m r ruling cause last u).Reaches turns (.done st reply)) :
    rejectionEntry cause.reason last r ∈ logsOf turns := by
  obtain ⟨_, _, noted, rfl, way⟩ := Step.reaches_ask_done path
  obtain ⟨_, _, logged, rfl, _⟩ := Step.reaches_ask_done way
  exact List.mem_cons_self

end Away

/-! ### Up to the ruling -/

/-- **Answers of a key cache:** a search for a key comes to what some cache answers it, whatever keys the cache
holds and whatever fetches it has been through. -/
def OfCache : (q : Ask) → q.Answer → Prop
  | .key _, answer => ∃ settings history moment caller a,
      (caller, a) ∈ KeyCache.answersAt settings history moment ∧ answer = KeySession.keyAnswer a
  | _, _ => True

/-- Keys are told to be unavailable for the cause that a fetch has ended with. -/
theorem KeyCache.error_of_answerTo {result : Except Rejection KeySet} {want : Want} {cause : Rejection}
    (said : answerTo result want = .unavailable cause) : result = .error cause := by
  unfold answerTo at said
  split at said
  case h_1 => cases said
  case h_2 => cases said
  case h_3 => cases said
  case h_4 =>
    cases said
    rfl
  case h_5 =>
    cases said
    rfl

/-- Where a cache tells that keys are unavailable, a fetch has brought nothing. -/
theorem KeyCache.unavailable_of_answersAt {settings : Settings} {history : History} {moment : Moment} {caller : Nat}
    {cause : Rejection} (answered : (caller, .unavailable cause) ∈ answersAt settings history moment) :
    ∃ issuer outcome, Unavailable issuer outcome cause := by
  obtain ⟨now, event⟩ := moment
  cases event with
  | call caller' c =>
    rcases settled_or_waits settings history now caller' c with settled | waits
    · obtain ⟨a, at_once, answers⟩ := settled.answers
      rw [answersAt, answers] at answered
      cases List.mem_singleton.1 answered
      cases at_once
    · rw [answersAt, waits.answers] at answered
      cases answered
  | fetchEnd issuer outcome =>
    obtain ⟨result, heard, answers⟩ := answersAt_fetchEnd settings history now issuer outcome
    rw [answers] at answered
    obtain ⟨p, -, told⟩ := List.mem_map.1 answered
    have said : answerTo result (p.want settings) = .unavailable cause := congrArg Prod.snd told
    cases heard with
    | brings brought held => cases error_of_answerTo said
    | fails nothing unavailable =>
      cases error_of_answerTo said
      exact ⟨issuer, outcome, unavailable⟩

/-- Where keys are missing, that is the reason, and nothing that a fetch has told. -/
theorem proper_of_ofCache {keyId : String} {answer : KeyAnswer} (cached : OfCache (.key keyId) answer) :
    answer.Proper := by
  obtain ⟨settings, history, moment, caller, a, answered, rfl⟩ := cached
  intro cause missing
  cases a with
  | unavailable _ =>
    cases missing
    obtain ⟨issuer, outcome, unavailable⟩ := KeyCache.unavailable_of_answersAt answered
    exact unavailable.reason
  | key found => cases found <;> cases missing
  | count _ => cases missing
  | unregistered _ => cases missing

/-- **Logging nothing.** -/
def Contract.silent (σ : Type) (relies : (q : Ask) → q.Answer → Prop) : Contract σ where
  relies
  keeps _ _ := True
  asks q := ∀ e, q ≠ .log e
  refl _ := trivial
  trans _ _ := trivial

/-- A path of a task that logs nothing has no entries. -/
theorem logsOf_of_silent {σ α : Type} {relies : (q : Ask) → q.Answer → Prop} {t : Task σ α} {post : α → Prop}
    (silent : t.Within (Contract.silent σ relies) post) {s : σ} {turns : List (Turn σ)} {y : Step σ α}
    (path : (t s).Reaches turns y) (answers : ∀ t ∈ turns, relies t.question t.answer) : logsOf turns = [] := by
  have asked := Step.Within.asks_of_mem path (silent s) answers
  refine List.filterMap_eq_nil_iff.2 fun turn member => ?_
  obtain ⟨left, question, answer, back⟩ := turn
  cases question with
  | log e => exact absurd rfl (asked _ member e)
  | _ => rfl

section Ruled

variable {σ : Type}

/-- **The gate logs nothing,** and rejects for the reasons that it reports, each at its stage. -/
theorem within_gate_reports (g : Gate) {context : RequestContext} (no_claims : context.claims = none)
    (no_principal : context.principal = none) (requirement : Requirement) :
    Task.Within (Contract.silent σ OfCache)
      (fun result => ∀ cause last, result.1 = .rejected cause last → (cause.reason, last) ∈ Gate.reports)
      (g.task context requirement) := by
  have reported : ∀ {raw answer now v}, Course g.validator g.check raw answer now v → ∀ cause last,
      (g.conclude context requirement v).1 = .rejected cause last → (cause.reason, last) ∈ Gate.reports :=
    fun course _ _ rejected => ((Gate.comes_of_course course no_claims no_principal).report rejected).1
  have absent : ∀ cause last, Decision.rejected .noToken .received = .rejected cause last →
      (cause.reason, last) ∈ Gate.reports := by
    intro cause last same
    cases same
    decide
  unfold Gate.task
  cases there : context.token with
  | none =>
    rw [Gate.run_of_no_token _ _ _ _ _ (.inl there)]
    exact .pure absent
  | some raw =>
    by_cases filled : raw = ""
    · rw [Gate.run_of_no_token _ _ _ _ _ (.inr (by rw [there, filled]))]
      exact .pure absent
    cases planned : g.validator.plan g.check raw with
    | settled v =>
      rw [Gate.run_of_settled _ _ _ _ _ there filled planned]
      have settled : Course g.validator g.check raw .absent 0 v := (course_of_settled planned).1
      exact .pure (reported settled)
    | needsKey keyId resume =>
      rw [Gate.run_of_needsKey _ _ _ _ _ there filled planned]
      refine .bind (.ask fun e => by simp) fun answer cached => ?_
      refine .bind (.ask fun e => by simp) fun now _ => ?_
      obtain ⟨t, a, written, eligible, rfl⟩ := Validator.plan_eq_needsKey_iff.1 planned
      exact .pure (reported (course_resumption written eligible (proper_of_ofCache cached)))

theorem within_approach_reports (g : Gate) (requirement : Requirement) (r : Request) :
    Task.Within (Contract.silent σ OfCache)
      (fun ruling => ∀ cause last, ruling.decision = .rejected cause last → (cause.reason, last) ∈ Gate.reports)
      (approach g requirement r) := by
  have numbered : Task.Within (Contract.silent σ OfCache) (fun _ => True) (requestId r) := by
    unfold requestId
    split
    · exact .pure trivial
    · exact .bind (.ask fun e => by simp) fun n _ => .pure trivial
  refine .bind numbered fun id _ => .bind (.ask fun e => by simp) fun start _ => ?_
  refine .bind (within_gate_reports g rfl rfl requirement) fun result reports => ?_
  exact .pure reports

/-- The ruling on a request shows the id that the request has. -/
theorem id_of_approach {g : Gate} {requirement : Requirement} {r : Request} {s st : σ} {turns : List (Turn σ)}
    {ruling : Ruling} (path : (approach g requirement r s).Reaches turns (.done st ruling)) (later : List (Turn σ)) :
    r.idAmong? (requestNumbers (turns ++ later)) = some ruling.id := by
  unfold approach at path
  rw [Task.bind_apply] at path
  obtain ⟨numbered, turns, s₁, id, rfl, first, path⟩ := Step.reaches_bind_done path
  rw [Task.bind_apply] at path
  obtain ⟨timed, turns, s₂, start, rfl, -, path⟩ := Step.reaches_bind_done path
  rw [Task.bind_apply] at path
  obtain ⟨decided, turns, s₃, result, rfl, -, path⟩ := Step.reaches_bind_done path
  obtain ⟨rfl, -, rfl⟩ := eq_of_reaches_done path
  unfold requestId at first
  cases own : r.filledHeader? "request-id" with
  | some id =>
    rw [own] at first
    obtain ⟨-, -, rfl⟩ := eq_of_reaches_done first
    rw [Request.idAmong?, own]
  | none =>
    rw [own] at first
    obtain ⟨n, u, rest, rfl, ended⟩ := Step.reaches_ask_done first
    obtain ⟨rfl, -, rfl⟩ := eq_of_reaches_done ended
    rw [Request.idAmong?, own]
    rfl

end Ruled

/-! ### Two requests that are turned away -/

/-- **A visit that the gate turns away:** the ruling on it is a rejection, and some turns follow the ruling. -/
inductive Visit.TurnedAway (s : Service) (name : ServiceName) (v : Visit) :
    Rejection → Stage → List (Turn ServiceState) → Prop
  | intro {m : Option Match} {requirement : Requirement} {before rest : List (Turn ServiceState)}
      {st : ServiceState} {ruling : Ruling} {cause : Rejection} {last : Stage}
      (routed : routed? name.endpoints v.request = some m) (plain : v.request.method ≠ "OPTIONS")
      (access : accessOf m = .needs requirement) (parts : v.turns = before ++ rest)
      (ruled : (approach s.gate requirement v.request v.arrival).Reaches before (.done st ruling))
      (decided : ruling.decision = .rejected cause last) : TurnedAway s name v cause last rest

/-- The causes that there are, whoever the issuer is. -/
def Rejection.all : List Rejection :=
  [noToken, notThreeSegments, notEncodedJson, noAlgorithm, noSubject, algorithmNotAccepted, noKeyId, unknownKey,
    otherKeyAlgorithm, badSignature, noExpiry, expired, notYetValid, foreignIssuer, foreignAudience, lacksRole,
    keysUnreachable "", keysMisshapen ""]

/-- **The messages of rejections.** -/
def Rejection.messages : List String := all.map message

theorem Rejection.message_mem (cause : Rejection) : cause.message ∈ messages := by
  have unreachable : (keysUnreachable "").message ∈ messages := by decide
  have misshapen : (keysMisshapen "").message ∈ messages := by decide
  cases cause with
  | keysUnreachable issuer => exact unreachable
  | keysMisshapen issuer => exact misshapen
  | _ => decide

/-- In the reports of the gate every reason has one stage. -/
theorem Gate.stage_of_reason {reason : Reason} {last last' : Stage} (listed : (reason, last) ∈ reports)
    (listed' : (reason, last') ∈ reports) : last' = last := by
  have one_each : ∀ p ∈ reports, ∀ q ∈ reports, q.1 = p.1 → q.2 = p.2 := by decide
  exact one_each _ listed _ listed' rfl

/-- The turns that follow the end of a task are those of the task that follows. -/
theorem Step.reaches_bind_after {σ α β : Type} {x : Step σ α} {f : α → σ → Step σ β}
    {before rest : List (Turn σ)} {s : σ} {a : α} {y : Step σ β} (ended : x.Reaches before (.done s a))
    (path : (x.bind f).Reaches (before ++ rest) y) : (f a s).Reaches rest y := by
  generalize stands : Step.done s a = z at ended
  induction ended with
  | here x =>
    subst stands
    exact path
  | turn _ ih =>
    cases path with
    | turn path => exact ih path stands

/-- **How a visit that is turned away ends:** nothing is logged before the ruling, and after it the visit goes the
way out. -/
structure Visit.Dismissed (s : Service) (name : ServiceName) (v : Visit) (cause : Rejection) (last : Stage)
    (m : Option Match) (ruling : Ruling) (before rest : List (Turn ServiceState)) (u st : ServiceState)
    (reply : Reply) : Prop where
  routed : routed? name.endpoints v.request = some m
  parts : v.turns = before ++ rest
  quiet : logsOf before = []
  listed : (cause.reason, last) ∈ Gate.reports
  id : v.request.idAmong? (requestNumbers v.turns) = some ruling.id
  way : (turnAway s m v.request ruling cause last u).Reaches rest (.done st reply)

theorem Visit.TurnedAway.dismissed {s : Service} {name : ServiceName} {v : Visit} {cause : Rejection} {last : Stage}
    {rest : List (Turn ServiceState)} {st : ServiceState} {reply : Option Reply}
    (away : v.TurnedAway s name cause last rest) (travels : v.Travels s name.endpoints)
    (cached : ∀ t ∈ v.turns, OfCache t.question t.answer) (ended : v.standing = .done st reply) :
    ∃ m ruling before u own, reply = some own ∧ v.Dismissed s name cause last m ruling before rest u st own := by
  cases away with
  | @intro m requirement before rest u ruling cause last routed plain access parts ruled decided =>
    unfold Travels at travels
    rw [respond_of_routed routed plain, travel_eq access, map_bind, Task.bind_apply, ended, parts] at travels
    have onward := Step.reaches_bind_after ruled travels
    unfold BearerGate.onward at onward
    rw [decided] at onward
    obtain ⟨own, sent, way⟩ := reaches_of_map onward
    have first : ∀ t ∈ before, OfCache t.question t.answer :=
      fun t member => cached t (by rw [parts]; exact List.mem_append_left rest member)
    have up : Task.Within (Contract.silent ServiceState OfCache) _ (approach s.gate requirement v.request) :=
      within_approach_reports s.gate requirement v.request
    refine ⟨m, ruling, before, u, own, sent, routed, parts, logsOf_of_silent up ruled first, ?_, ?_, way⟩
    · exact ((up v.arrival).of_reaches ruled first).2 cause last decided
    · rw [parts]
      exact id_of_approach ruled rest

/-- **Rejections tell nothing of a token.**  Two requests are alike but for the tokens that they present, and are
turned away for the same reason with the same message; what the key caches hold, what their fetches came to and what
is stored may be different.  If both are given the same number and the clock shows both the same after the ruling,
then the same goes back to both and the same is logged, which is the reason, the stage that belongs to it, and the
path; and the message is one of a fixed list. -/
theorem rejections_tell_no_token {s : Service} {name : ServiceName} {v w : Visit} {raw raw' : String}
    {cause cause' : Rejection} {last last' : Stage} {rest rest' : List (Turn ServiceState)}
    {st st' : ServiceState} {reply reply' : Option Reply} {clock : List Number}
    (alike : v.request.AlikeButToken w.request) (presents : v.request.Presents raw)
    (presents' : w.request.Presents raw')
    (travels : v.Travels s name.endpoints) (travels' : w.Travels s name.endpoints)
    (ended : v.standing = .done st reply) (ended' : w.standing = .done st' reply')
    (away : v.TurnedAway s name cause last rest) (away' : w.TurnedAway s name cause' last' rest')
    (reason : cause'.reason = cause.reason) (message : cause'.message = cause.message)
    (cached : ∀ t ∈ v.turns, OfCache t.question t.answer) (cached' : ∀ t ∈ w.turns, OfCache t.question t.answer)
    (numbered : requestNumbers w.turns = requestNumbers v.turns)
    (shown : clockReadings rest <+: clock) (shown' : clockReadings rest' <+: clock) :
    (∃ own, reply = some own ∧ reply' = some own) ∧ logsOf w.turns = logsOf v.turns ∧
      rejectionEntry cause.reason last v.request ∈ logsOf v.turns ∧ (cause.reason, last) ∈ Gate.reports ∧
      cause.message ∈ Rejection.messages := by
  obtain ⟨m, ruling, before, u, own, rfl, first⟩ := away.dismissed travels cached ended
  obtain ⟨m', ruling', before', u', own', rfl, second⟩ := away'.dismissed travels' cached' ended'
  obtain rfl : m' = m := by
    have routed := second.routed
    rw [alike.routed?, first.routed] at routed
    exact (Option.some.inj routed).symm
  obtain rfl : last' = last := by
    have listed := second.listed
    rw [reason] at listed
    exact Gate.stage_of_reason first.listed listed
  have id : ruling'.id = ruling.id := by
    have given := second.id
    rw [numbered, alike.idAmong?, first.id] at given
    exact (Option.some.inj given).symm
  have twins : Task.Twins (turnAway s m' v.request ruling cause last') (turnAway s m' w.request ruling' cause' last') :=
    twins_turnAway alike presents presents' reason message id last'
  obtain ⟨rfl, logged⟩ := (twins u u').alike first.way second.way shown shown'
  have logs : logsOf w.turns = logsOf v.turns := by
    rw [first.parts, second.parts, logsOf_append, logsOf_append, first.quiet, second.quiet, logged]
  refine ⟨⟨_, rfl, rfl⟩, logs, ?_, first.listed, cause.message_mem⟩
  rw [first.parts, logsOf_append]
  exact List.mem_append_right _ (rejectionEntry_mem first.way)

/-! ### In the small shop -/

namespace SmallShop

/-- A pass for the user `s` of another issuer. -/
def foreignPass : String :=
  "eyJhbGciOiJSUzI1NiIsImtpZCI6ImwifQ.eyJzdWIiOiJzIiwiaXNzIjoiaiIsImF1ZCI6ImEiLCJleHAiOjQwMDAwMDAwMDB9.AQIE"

/-- A request for the profile with some pass. -/
def bearing (raw : String) : Request where
  target := "/api/users/me"
  headers := [("authorization", "Bearer " ++ raw)]

/-- The world of the shop on a day on which no keys can be had of an issuer. -/
def keyless (issuer : String) : (q : Ask) → q.Answer
  | .key _ => .unavailable (.keysUnreachable issuer)
  | q => answers (fun _ => none) q

/-- Such a day comes from a cache whose fetches cannot be sent. -/
theorem ofCache_keyless {issuer : String} (named : issuer = "i" ∨ issuer = "j") (q : Ask) :
    OfCache q (keyless issuer q) := by
  cases q with
  | key keyId =>
    rcases named with rfl | rfl
    · exact ⟨{ sources := [("i", "")], fetchTimeout := .nan }, [⟨0, .call 0 (.key "i" "k")⟩],
        ⟨0, .fetchEnd "i" .failed⟩, 0, .unavailable (.keysUnreachable "i"), .head _, rfl⟩
    · exact ⟨{ sources := [("j", "")], fetchTimeout := .nan }, [⟨0, .call 0 (.key "j" "l")⟩],
        ⟨0, .fetchEnd "j" .failed⟩, 0, .unavailable (.keysUnreachable "j"), .head _, rfl⟩
  | _ => trivial

/-- The way of such a request. -/
def bearingWay (raw : String) : Step ServiceState (Option Reply) :=
  respond users ServiceName.userService.endpoints (bearing raw) {}

/-- The visit of such a request on such a day. -/
def keylessVisit (issuer raw : String) : Visit where
  request := bearing raw
  arrival := {}
  turns := (bearingWay raw).turnsPlayed (keyless issuer)
  standing := .done ((bearingWay raw).played (keyless issuer)).1 ((bearingWay raw).played (keyless issuer)).2

/-- The ruling on it, with the state that is left then. -/
def keylessRuling (issuer raw : String) : ServiceState × Ruling :=
  (approach users.gate .anyone (bearing raw) {}).played (keyless issuer)

/-- The turns that follow the ruling. -/
def keylessRest (issuer raw : String) : List (Turn ServiceState) :=
  ((some <$> onward users (some ⟨.me, []⟩) (bearing raw) (keylessRuling issuer raw).2 : Task _ _)
    (keylessRuling issuer raw).1).turnsPlayed (keyless issuer)

/-- Whether a decision is a rejection for the want of an issuer's keys. -/
def wantsKeys (issuer : String) : Decision → Bool
  | .rejected cause last => cause = .keysUnreachable issuer ∧ last = .structurallyChecked
  | _ => false

theorem bearing_alike (raw raw' : String) : (bearing raw).AlikeButToken (bearing raw') where
  method := rfl
  target := rfl
  body := rfl
  header? := by
    intro name other
    have only : ∀ raw, (bearing raw).header? name = none := by
      intro raw
      have lower : Text.lower "authorization" = "authorization" := by decide
      have apart : (decide (Text.lower "authorization" = name)) = false := by
        rw [lower]
        exact decide_eq_false fun same => other same.symm
      simp [Request.header?, bearing, apart]
    rw [only, only]

theorem routed_bearing (raw : String) :
    routed? ServiceName.userService.endpoints (bearing raw) = some (some ⟨.me, []⟩) := by
  rw [(bearing_alike pass raw).routed?]
  decide +kernel

theorem travels_keyless (issuer raw : String) :
    (keylessVisit issuer raw).Travels users ServiceName.userService.endpoints :=
  Step.reaches_played (keyless issuer) (bearingWay raw)

theorem ended_keyless (issuer raw : String) : (keylessVisit issuer raw).standing =
    .done ((bearingWay raw).played (keyless issuer)).1 ((bearingWay raw).played (keyless issuer)).2 := rfl

/-- A request that wants keys which cannot be had is turned away. -/
theorem turnedAway_keyless {issuer raw : String}
    (wants : wantsKeys issuer (keylessRuling issuer raw).2.decision = true) :
    (keylessVisit issuer raw).TurnedAway users .userService (.keysUnreachable issuer) .structurallyChecked
      (keylessRest issuer raw) := by
  have decided : (keylessRuling issuer raw).2.decision = .rejected (.keysUnreachable issuer) .structurallyChecked := by
    unfold wantsKeys at wants
    split at wants
    · rename_i cause last decided
      obtain ⟨rfl, rfl⟩ := of_decide_eq_true wants
      exact decided
    · cases wants
  have access : accessOf (some ⟨.me, []⟩) = .needs .anyone := rfl
  have plain : (bearing raw).method ≠ "OPTIONS" := by
    change "GET" ≠ "OPTIONS"
    decide
  refine .intro (routed_bearing raw) plain access ?_ (Step.reaches_played (keyless issuer) _) decided
  have way : bearingWay raw = (approach users.gate .anyone (bearing raw) {}).bind fun ruling =>
      (some <$> onward users (some ⟨.me, []⟩) (bearing raw) ruling : Task _ _) := by
    rw [bearingWay, respond_of_routed (routed_bearing raw) plain, travel_eq access, map_bind, Task.bind_apply]
  exact (congrArg (Step.turnsPlayed (keyless issuer)) way).trans (Step.turnsPlayed_bind (keyless issuer) _ _)

/-- What such a visit comes to: it wants keys, it is given one number, and after the ruling reads the clock once. -/
def WantsKeysOnce (issuer raw : String) : Prop :=
  wantsKeys issuer (keylessRuling issuer raw).2.decision = true ∧
    requestNumbers (keylessVisit issuer raw).turns = [0] ∧ clockReadings (keylessRest issuer raw) = [0]

theorem wantsKeysOnce_pass : WantsKeysOnce "i" pass := by
  unfold WantsKeysOnce
  decide +kernel

theorem wantsKeysOnce_foreignPass : WantsKeysOnce "j" foreignPass := by
  unfold WantsKeysOnce
  decide +kernel

theorem cached_keyless {issuer : String} (named : issuer = "i" ∨ issuer = "j") (raw : String) :
    ∀ t ∈ (keylessVisit issuer raw).turns, OfCache t.question t.answer := by
  intro t member
  rw [← Step.answered_turnsPlayed (keyless issuer) (bearingWay raw) t member]
  exact ofCache_keyless named t.question

end SmallShop

/-- On a day without keys the two users are told the same, though their passes name different keys of different
issuers. -/
theorem rejections_tell_no_token_without_keys :
    (SmallShop.bearing SmallShop.pass).AlikeButToken (SmallShop.bearing SmallShop.foreignPass) ∧
      SmallShop.pass ≠ SmallShop.foreignPass ∧
      ∃ st st' own, (SmallShop.keylessVisit "i" SmallShop.pass).standing = .done st (some own) ∧
        (SmallShop.keylessVisit "j" SmallShop.foreignPass).standing = .done st' (some own) ∧
        rejectionEntry .keySetUnavailable .structurallyChecked (SmallShop.bearing SmallShop.pass) ∈
          logsOf (SmallShop.keylessVisit "i" SmallShop.pass).turns := by
  have alike := SmallShop.bearing_alike SmallShop.pass SmallShop.foreignPass
  have presents : (SmallShop.bearing SmallShop.pass).Presents SmallShop.pass := SmallShop.bearerToken?_pass
  have presents' : (SmallShop.bearing SmallShop.foreignPass).Presents SmallShop.foreignPass := by
    change bearerToken? _ = _
    decide +kernel
  obtain ⟨wants, numbers, readings⟩ := SmallShop.wantsKeysOnce_pass
  obtain ⟨wants', numbers', readings'⟩ := SmallShop.wantsKeysOnce_foreignPass
  obtain ⟨⟨own, replied, replied'⟩, -, logged, -⟩ := rejections_tell_no_token alike presents presents'
    (SmallShop.travels_keyless _ _) (SmallShop.travels_keyless _ _) (SmallShop.ended_keyless _ _)
    (SmallShop.ended_keyless _ _) (SmallShop.turnedAway_keyless wants) (SmallShop.turnedAway_keyless wants') rfl rfl
    (SmallShop.cached_keyless (.inl rfl) _) (SmallShop.cached_keyless (.inr rfl) _) (numbers'.trans numbers.symm)
    (by rw [readings]) (by rw [readings'])
  have ended := SmallShop.ended_keyless "i" SmallShop.pass
  have ended' := SmallShop.ended_keyless "j" SmallShop.foreignPass
  rw [replied] at ended
  rw [replied'] at ended'
  exact ⟨alike, by decide, _, _, own, ended, ended', logged⟩

end BearerGate
