import BearerGate.KeySet.Session
import BearerGate.Proofs.Service.Passage

/-!
# What a request that is turned away gets

Up to the ruling, and after a ruling that does not let the request in, a service does nothing to its state
and calls nobody; and the reply is the gate's own, under the status of the reason.  The latter needs
answers of a real world: a clock that shows instants, and searches for keys that end as those of a cache
do (`Real`).  It also needs headers that HTTP can deliver, for two of them come back in the reply.
-/

namespace BearerGate

/-- **Answers of a real world:** the clock shows an instant, and a search for a key ends as a cache ends
it. -/
def Real : (q : Ask) → q.Answer → Prop
  | .time, now => ((Instant.ofMillis now).text?).isSome = true
  | .key _, answer => ∃ a, answer = KeySession.keyAnswer a
  | _, _ => True

/-- Headers as HTTP delivers them: no control characters, and none above U+00FF. -/
def Request.Deliverable (r : Request) : Prop := ∀ h ∈ r.headers, isReplyHeader h = true

/-! ### Headers that can be sent -/

theorem badHeader?_eq_none {headers : List (String × String)}
    (fine : ∀ h ∈ headers, isReplyHeader h = true) : badHeader? headers = none := by
  induction headers with
  | nil => rfl
  | cons h headers ih =>
    rw [badHeader?, if_pos (fine h List.mem_cons_self),
      ih fun h' member => fine h' (List.mem_cons_of_mem _ member)]
    rfl

/-- A header of a deliverable request can be sent back. -/
theorem isReplyHeader_of_filledHeader? {r : Request} (deliverable : r.Deliverable) {name own value : String}
    (there : r.filledHeader? name = some value) : isReplyHeader (own, value) = true := by
  obtain ⟨v, found, filled⟩ := Option.bind_eq_some_iff.1 there
  split at filled
  · cases filled
  · cases filled
    obtain ⟨h, member, rfl⟩ := Option.map_eq_some_iff.1 found
    exact deliverable h (List.mem_reverse.1 (List.mem_of_find?_eq_some member))

theorem isReplyHeader_corsHeaders {r : Request} (deliverable : r.Deliverable) (s : Service) :
    ∀ h ∈ s.corsHeaders r, isReplyHeader h = true := by
  intro h member
  have exposed : isReplyHeader ("access-control-expose-headers", exposedHeaders) = true := by decide
  have vary : isReplyHeader ("vary", "Origin") = true := by decide
  have star : isReplyHeader ("access-control-allow-origin", "*") = true := by decide
  simp only [Service.corsHeaders, corsHeaders, List.mem_append, Option.mem_toList, List.mem_singleton,
    Option.map_eq_some_iff] at member
  rcases member with (varies | ⟨origin, granted, rfl⟩) | rfl
  · split at varies
    · cases varies
    · rw [List.mem_singleton.1 varies]
      exact vary
  · unfold AllowedOrigins.granted? at granted
    split at granted
    · cases granted
      exact star
    · exact isReplyHeader_of_filledHeader? deliverable granted
    · obtain ⟨o, named, listed⟩ := Option.bind_eq_some_iff.1 granted
      split at listed
      · cases listed
        exact isReplyHeader_of_filledHeader? deliverable named
      · cases listed
  · exact exposed

/-- The headers of all replies to a deliverable request can be sent. -/
theorem isReplyHeader_outlet {s : Service} {m : Option Match} {r : Request} {id : String}
    (deliverable : r.Deliverable) (id_fine : isReplyHeader ("x-request-id", id) = true) :
    ∀ h ∈ (s.outlet m r id).headers, isReplyHeader h = true := by
  intro h member
  rcases List.mem_append.1 member with cors | own
  · exact isReplyHeader_corsHeaders deliverable s h cors
  · rw [List.mem_singleton.1 own]
    exact id_fine

private theorem isReplyChar_base36Digit : ∀ n < 36, isReplyChar (base36Digit n) = true := by decide

private theorem isReplyChar_base36Digits (fuel n : Nat) (tail : List Char)
    (fine : ∀ c ∈ tail, isReplyChar c = true) :
    ∀ c ∈ base36Digits fuel n tail, isReplyChar c = true := by
  induction fuel generalizing n tail with
  | zero => exact fine
  | succ fuel ih =>
    rw [base36Digits]
    split
    · rename_i small
      intro c member
      rcases List.mem_cons.1 member with rfl | old
      · exact isReplyChar_base36Digit n small
      · exact fine c old
    · refine ih _ _ ?_
      intro c member
      rcases List.mem_cons.1 member with rfl | old
      · exact isReplyChar_base36Digit _ (Nat.mod_lt _ (by decide))
      · exact fine c old

/-- The id of a numbered request can stand in a header. -/
theorem isReplyHeader_numberedId (name : String) (n : Nat) :
    isReplyHeader (name, numberedId n) = true := by
  have digits := isReplyChar_base36Digits (n + 1) n [] (by simp)
  have start : "req-".toList.all isReplyChar = true := by decide
  change (numberedId n).toList.all isReplyChar = true
  rw [numberedId, String.toList_append, List.all_append, Bool.and_eq_true]
  refine ⟨start, ?_⟩
  rw [String.toList_ofList]
  exact List.all_eq_true.2 digits

/-- What goes with a rejection can be sent. -/
theorem isReplyHeader_rejectionHeader (e : AuthError) (presented : Bool) :
    isReplyHeader (rejectionHeader e presented) = true := by
  have wait : isReplyHeader ("Retry-After", toString retryAfterSeconds) = true := by decide
  have scope : isReplyHeader ("", "Bearer error=\"insufficient_scope\"") = true := by decide
  have plain : isReplyHeader ("", "Bearer") = true := by decide
  have start : "Bearer error=\"invalid_token\", error_description=\"".toList.all isReplyChar = true := by
    decide
  have code : e.reason.code.toList.all isReplyChar = true := by cases e.reason <;> decide
  have stop : "\"".toList.all isReplyChar = true := by decide
  unfold rejectionHeader
  split
  · exact wait
  · change (challenge e presented).toList.all isReplyChar = true
    unfold challenge
    split
    · exact scope
    · split
      · rw [String.toList_append, String.toList_append, List.all_append, List.all_append,
          Bool.and_eq_true, Bool.and_eq_true]
        exact ⟨⟨start, code⟩, stop⟩
      · exact plain

/-- A rejection goes under a status of its own. -/
theorem Reason.status_mem (reason : Reason) : reason.status ∈ [401, 403, 503] := by
  cases reason <;> decide

theorem Reason.status_ne_noContent (reason : Reason) : reason.status ≠ noContent := by
  cases reason <;> decide

/-- An answer with one header of its own gets a content type after it. -/
theorem fullHeaders_single {status : Nat} {own : String × String} {payload : Payload} (withheld : Bool)
    (content : status ≠ noContent) (other : own.1 ≠ "content-type") :
    ({ status, headers := [own], payload } : Answer).fullHeaders withheld =
      [own, ("content-type", contentType none payload)] := by
  have absent : ([own].any fun h => h.1 = "content-type") = false := by simp [other]
  rw [Answer.fullHeaders, if_neg fun no_content => content no_content.1, Table.alter, absent]
  rfl

/-- **A JSON answer with one header of its own** goes out at the first attempt. -/
theorem attempt_json {o : Outlet} {status : Nat} {own : String × String} {body : Json}
    (content : status ≠ noContent) (other : own.1 ≠ "content-type") (header : isReplyHeader own = true)
    (fine : ∀ h ∈ o.headers, isReplyHeader h = true) :
    ∃ reply, o.attempt ⟨status, [own], some (.json body)⟩ = .ok reply ∧ reply.status = status := by
  have type : isReplyHeader ("content-type", jsonType) = true := by decide
  -- The headers of every reply, the one of this answer, and its content type: all can be sent.
  have all_fine : badHeader? (o.headers ++ [own, ("content-type", jsonType)]) = none := by
    refine badHeader?_eq_none ?_
    intro h member
    rcases List.mem_append.1 member with old | new
    · exact fine h old
    · simp only [List.mem_cons, List.not_mem_nil, or_false] at new
      rcases new with rfl | rfl
      · exact header
      · exact type
  unfold Outlet.attempt Answer.reply
  dsimp only
  have typed : contentType none (.json body) = jsonType := rfl
  rw [fullHeaders_single o.withholdsText content other, typed, all_fine]
  exact ⟨_, rfl, rfl⟩

/-- **A rejection is sent at the first attempt** if the time can be told and the other headers can be
sent. -/
theorem attempt_ofRejection {o : Outlet} {e : AuthError} {r : Request} {now : Number}
    (tellable : ((Instant.ofMillis now).text?).isSome = true)
    (fine : ∀ h ∈ o.headers, isReplyHeader h = true) :
    ∃ reply, o.attempt (.ofRejection e r now) = .ok reply ∧ reply.status = e.reason.status := by
  obtain ⟨text, told⟩ := Option.isSome_iff_exists.1 tellable
  have other : Text.lower (rejectionHeader e (contextOf r "").bearer?.isSome).1 ≠ "content-type" := by
    unfold rejectionHeader
    split
    · decide
    · change Text.lower "WWW-Authenticate" ≠ "content-type"
      decide
  have header := isReplyHeader_rejectionHeader e (contextOf r "").bearer?.isSome
  unfold Draft.ofRejection Draft.ofReport ErrorReport.body? ErrorReport.bodyWith?
  rw [told]
  exact attempt_json e.reason.status_ne_noContent other header fine

/-! ### Up to the ruling -/

section Idle

variable {relies : (q : Ask) → q.Answer → Prop}

/-- The id of a deliverable request can be sent back. -/
theorem within_requestId_idle {σ : Type} (r : Request) :
    Task.Within (Contract.idle σ relies)
      (fun id => r.Deliverable → isReplyHeader ("x-request-id", id) = true) (requestId r) := by
  unfold requestId
  split
  · rename_i id there
    exact .pure fun deliverable => isReplyHeader_of_filledHeader? deliverable there
  · refine .bind (.ask (liberal_idle relies _ (by simp))) fun n _ => ?_
    exact .pure fun _ => isReplyHeader_numberedId _ n

/-- A conclusion breaks down only if the validation has. -/
theorem broken_of_conclude {g : Gate} {context : RequestContext} {requirement : Requirement}
    {v : Validation} {why : String} (broke : (g.conclude context requirement v).1 = .broken why) :
    v.result = .error (.broken why) := by
  unfold Gate.conclude at broke
  split at broke
  · cases broke
  · rename_i why' ended
    cases broke
    exact ended
  · dsimp only at broke
    split at broke <;> cases broke

/-- **What the gate asks:** nothing at all, or for one key and then for the time.  It breaks down only if the
search for the key does. -/
theorem Gate.task_cases {σ : Type} (g : Gate) (context : RequestContext) (requirement : Requirement) :
    (∃ result, (g.task context requirement : Task σ _) = pure result ∧ ∀ why, result.1 ≠ .broken why) ∨
      ∃ (keyId : String) (next : KeyAnswer → Number → Decision × RequestContext),
        (g.task context requirement : Task σ _) =
          (do
            let answer ← Task.ask (.key keyId)
            let now ← Task.time
            pure (next answer now)) ∧
        ∀ answer now why, (next answer now).1 = .broken why → answer = .broken why := by
  unfold Gate.task
  cases there : context.token with
  | none => exact .inl ⟨_, Gate.run_of_no_token _ _ _ _ _ (.inl there), by simp⟩
  | some raw =>
    by_cases filled : raw = ""
    · exact .inl ⟨_, Gate.run_of_no_token _ _ _ _ _ (.inr (by rw [there, filled])), by simp⟩
    cases planned : g.validator.plan g.check raw with
    | settled v =>
      obtain ⟨passed, cause, rfl⟩ := Validator.reject_of_plan_eq_settled planned
      refine .inl ⟨_, Gate.run_of_settled _ _ _ _ _ there filled planned, fun why broke => ?_⟩
      cases broken_of_conclude broke
    | needsKey keyId resume =>
      refine .inr ⟨keyId, _, Gate.run_of_needsKey _ _ _ _ _ there filled planned, fun answer now why broke => ?_⟩
      -- Nothing in a validation breaks down but the search for the key.
      obtain ⟨t, a, -, -, rfl⟩ := Validator.plan_eq_needsKey_iff.1 planned
      exact Validator.broken_of_resumption (broken_of_conclude broke)

/-- **The gate does nothing,** and breaks down only if a search for a key does. -/
theorem within_gate {σ : Type} (g : Gate) (context : RequestContext) (requirement : Requirement) :
    Task.Within (Contract.idle σ relies)
      (fun result => (∀ keyId why, ¬relies (.key keyId) (.broken why)) → ∀ why, result.1 ≠ .broken why)
      (g.task context requirement) := by
  rcases Gate.task_cases (σ := σ) g context requirement with ⟨result, ruled, unbroken⟩ | ⟨keyId, next, ruled, broken⟩
  · rw [ruled]
    exact .pure fun _ => unbroken
  · rw [ruled]
    refine .bind (.ask (liberal_idle relies _ (by simp))) fun answer given => ?_
    refine .bind (.time (liberal_idle relies)) fun now _ => .pure fun unbroken why broke => ?_
    rw [broken answer now why broke] at given
    exact unbroken keyId why given

/-- **Up to the ruling nothing is done.** -/
theorem within_approach {σ : Type} (g : Gate) (requirement : Requirement) (r : Request) :
    Task.Within (Contract.idle σ relies)
      (fun ruling => (r.Deliverable → isReplyHeader ("x-request-id", ruling.id) = true) ∧
        ((∀ keyId why, ¬relies (.key keyId) (.broken why)) → ∀ why, ruling.decision ≠ .broken why))
      (approach g requirement r) := by
  refine .bind (within_requestId_idle r) fun id fine => ?_
  refine .bind (.timer (liberal_idle relies)) fun start _ => ?_
  refine .bind (within_gate g (contextOf r id) requirement) fun result unbroken => ?_
  exact .pure ⟨fine, unbroken⟩

/-! ### After a ruling against the request -/

/-- **The gate's own answer** to a request: the report of a rejection, as it goes out at once. -/
def IsRefusal (s : Service) (m : Option Match) (r : Request) (cause : Rejection) (reply : Reply) : Prop :=
  ∃ id now, (s.outlet m r id).attempt (.ofRejection cause.toError r now) = .ok reply ∧
    reply.status = cause.reason.status

theorem IsRefusal.status_mem {s : Service} {m : Option Match} {r : Request} {cause : Rejection} {reply : Reply}
    (refusal : IsRefusal s m r cause reply) : reply.status ∈ [401, 403, 503] := by
  obtain ⟨id, now, -, status⟩ := refusal
  rw [status]
  exact cause.reason.status_mem

theorem within_depart {c : Contract ServiceState} (liberal : c.Liberal) {post : Reply → Prop} {s : Service}
    {m : Option Match} {r : Request} {ruling : Ruling} {result : Except Fault Draft}
    (sent : Task.Within c post ((s.outlet m r ruling.id).send r result)) :
    Task.Within c post (depart s m r ruling result) := by
  refine .bind sent fun reply holds => ?_
  refine .bind (.timer liberal) fun stop _ => ?_
  refine .bind (.record liberal _) fun _ _ => ?_
  exact .pure holds

/-- What is sent after a rejection is the gate's own answer, if it can be sent. -/
theorem within_send_ofRejection (s : Service) (m : Option Match) (r : Request) (id : String)
    (cause : Rejection) (now : Number) :
    Task.Within (Contract.idle ServiceState relies)
      (fun reply => ((Instant.ofMillis now).text?).isSome = true → r.Deliverable →
        isReplyHeader ("x-request-id", id) = true → IsRefusal s m r cause reply)
      ((s.outlet m r id).send r (.ok (.ofRejection cause.toError r now))) := by
  -- If it cannot be sent, it does not matter what is sent, only that nothing else is done.
  by_cases fine : ((Instant.ofMillis now).text?).isSome = true ∧ r.Deliverable ∧
      isReplyHeader ("x-request-id", id) = true
  · obtain ⟨tellable, deliverable, id_fine⟩ := fine
    obtain ⟨reply, goes, status⟩ :=
      attempt_ofRejection (e := cause.toError) (r := r) tellable (isReplyHeader_outlet deliverable id_fine)
    unfold Outlet.send Outlet.sendDraft
    dsimp only
    rw [goes]
    exact .pure fun _ _ _ => ⟨id, now, goes, status⟩
  · refine (within_send (liberal_idle relies) (s.outlet m r id) r _).mono fun reply _ => ?_
    intro tellable deliverable id_fine
    exact absurd ⟨tellable, deliverable, id_fine⟩ fine

/-- **A request that is turned away** gets the gate's own answer, and nothing else is done. -/
theorem within_turnAway (s : Service) (m : Option Match) (r : Request) (ruling : Ruling)
    (cause : Rejection) (last : Stage) :
    Task.Within (Contract.idle ServiceState relies)
      (fun reply => (∀ now, relies .time now → ((Instant.ofMillis now).text?).isSome = true) →
        r.Deliverable → isReplyHeader ("x-request-id", ruling.id) = true → IsRefusal s m r cause reply)
      (turnAway s m r ruling cause last) := by
  have liberal := liberal_idle (σ := ServiceState) relies
  refine .bind (.record liberal _) fun _ _ => ?_
  refine .bind (.log liberal _) fun _ _ => ?_
  refine .bind (.time liberal) fun now shown => ?_
  refine within_depart liberal ((within_send_ofRejection s m r ruling.id cause now).mono ?_)
  intro reply refusal tellable
  exact refusal (tellable now shown)

theorem within_breakDown (s : Service) (m : Option Match) (r : Request) (ruling : Ruling) (why : String) :
    Task.Within (Contract.idle ServiceState relies) (fun _ => True) (breakDown s m r ruling why) :=
  within_depart (liberal_idle relies) (within_send (liberal_idle relies) _ r _)

end Idle

/-- A request that is let in keeps to a contract if its handler does. -/
theorem within_letIn {c : Contract ServiceState} (liberal : c.Liberal) (s : Service) (m : Option Match)
    (r : Request) (ruling : Ruling) (caller : Principal)
    (handler : ∀ m', m = some m' → ∀ i, readBody r = .ok i.body → Handling.Within c (m'.endpoint.handler s i)) :
    Task.Within c (fun _ => True) (letIn s m r ruling caller) := by
  refine .bind (.record liberal _) fun _ _ => ?_
  refine .bind (.log liberal _) fun _ _ => ?_
  refine .bind (within_handle liberal s m r ruling.context handler) fun result _ => ?_
  exact within_depart liberal (within_send liberal _ r result)

end BearerGate
