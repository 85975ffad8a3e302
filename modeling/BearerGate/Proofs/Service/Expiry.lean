import BearerGate.Proofs.Service.Ownership
import BearerGate.Proofs.Time.Instant

/-!
# Callers whose token expires at an instant

A token is accepted with any number in `exp` that lies far enough in the future, but an instant is at most
`8640000000000` seconds away (`Number.Timely`).  A caller whose token expires at a timely number of seconds has the
instant of its milliseconds, and any other one has no instant (`Principal.ExpiresAs`).

The user service shows the instant in the caller's profile, so it answers with a profile exactly where there is one
(`Site.timely_callers_served`).  The order service looks for the caller's name in that profile, so a token that is
accepted and expires too late is told `502` there.
-/

namespace BearerGate

/-! ### The expiry of a token -/

/-- **A text of a token says when it expires.** -/
def Token.ExpiresAt (raw : String) (exp : Number) : Prop :=
  ∃ t, Token.Written raw t ∧ Table.get? t.payload "exp" = some (.number exp)

/-- **A caller has the instant of an expiry,** if that is timely, and no instant otherwise. -/
structure Principal.ExpiresAs (caller : Principal) (exp : Number) : Prop where
  timely : exp.Timely → ∃ ms, (exp * 1000).truncate? = some ms ∧ caller.expiresAt = .valid ms
  late : ¬exp.Timely → caller.expiresAt = .invalid

theorem Token.ExpiresAt.unique {raw : String} {exp exp' : Number} (expires : ExpiresAt raw exp)
    (expires' : ExpiresAt raw exp') : exp = exp' := by
  obtain ⟨t, written, there⟩ := expires
  obtain ⟨t', written', there'⟩ := expires'
  obtain rfl : t = t' :=
    Except.ok.inj ((Token.ofText_eq_ok_iff.2 written).symm.trans (Token.ofText_eq_ok_iff.2 written'))
  rw [there] at there'
  cases there'
  rfl

/-- The numbers in the claims of a token are numbers of the format. -/
theorem Token.Written.held {raw : String} {t : Token} (written : Token.Written raw t) {name : String} {n : Number}
    (there : Table.get? t.payload name = some (.number n)) : n.Held := by
  obtain ⟨h, p, s, -, -, -, -, -, payload⟩ := written.segments
  obtain ⟨j, read, members⟩ := Option.bind_eq_some_iff.1 payload
  have settled : (Json.object t.payload).Settled := by
    have same : j = .object t.payload := by
      cases j <;> cases members
      rfl
    rw [← same]
    exact Json.settled_of_parseChars? read
  cases settled with
  | object ordered each =>
    obtain ⟨⟨key, value⟩, found, rfl⟩ := Option.map_eq_some_iff.1 there
    cases each _ (List.mem_of_find?_eq_some found) with
    | number held => exact held

/-- **Whoever has an accepted token** has the instant of its expiry. -/
theorem Token.Accepted.exists_expiry {v : Validator} {check : SignatureCheck} {raw keyId : String} {t : Token}
    {entry : KeyEntry} {now : Number} (accepted : Token.Accepted v check t keyId entry now)
    (written : Token.Written raw t) (rolesSetting : String) :
    ∃ exp, Token.ExpiresAt raw exp ∧ (t.claims.principal rolesSetting).ExpiresAs exp := by
  obtain ⟨exp, there, -⟩ := accepted.expiry
  have expiresAt : (t.claims.principal rolesSetting).expiresAt = .ofSeconds exp := by
    change Instant.ofSeconds (((Table.get? t.payload "exp").bind Json.number?).getD .nan) = _
    rw [there]
    rfl
  refine ⟨exp, ⟨t, written, there⟩, fun timely => ?_, fun late => ?_⟩
  · rw [expiresAt]
    exact Instant.ofSeconds_of_timely timely
  · rw [expiresAt]
    exact Instant.ofSeconds_of_not_timely (written.held there) late

theorem Vouched.exists_expiry {σ : Type} {g : Gate} {r : Request} {requirement : Requirement}
    {turns : List (Turn σ)} {caller : Principal} (vouched : Vouched g r requirement turns caller) :
    ∃ raw exp, bearerToken? (r.header? "authorization") = some raw ∧ Token.ExpiresAt raw exp ∧
      caller.ExpiresAs exp := by
  cases vouched with
  | intro own written answered accepted allowed =>
    obtain ⟨exp, expires, as⟩ := accepted.exists_expiry written g.rolesSetting
    exact ⟨_, exp, own, expires, as⟩

theorem Principal.ExpiresAs.timely_of_shown {caller : Principal} {exp : Number} (expires : caller.ExpiresAs exp)
    {text : String} (shown : caller.expiresAt.text? = some text) : exp.Timely := by
  by_contra late
  rw [expires.late late] at shown
  cases shown

theorem Principal.ExpiresAs.late_of_timeless {caller : Principal} {exp : Number} (expires : caller.ExpiresAs exp)
    (timeless : caller.expiresAt.text? = none) : ¬exp.Timely := by
  intro timely
  obtain ⟨ms, -, instant⟩ := expires.timely timely
  rw [instant] at timeless
  cases timeless

/-! ### Who is authorized -/

/-- **Whoever the gate authorizes** has the instant of the expiry of the token, if that is timely. -/
theorem Gate.exists_expiry_of_run {σ : Type} {g : Gate} {lookup : String → StateM σ KeyAnswer}
    {clock : StateM σ Number} {context : RequestContext} {requirement : Requirement} {world : σ} {claims : Claims}
    {caller : Principal} (authorized : (g.run lookup clock context requirement world).1.1 = .authorized claims caller) :
    ∃ raw exp, context.token = some raw ∧ Token.ExpiresAt raw exp ∧ caller.ExpiresAs exp := by
  cases there : context.token with
  | none =>
    rw [run_of_no_token _ _ _ _ _ (.inl there)] at authorized
    cases authorized
  | some raw =>
    by_cases filled : raw = ""
    · rw [run_of_no_token _ _ _ _ _ (.inr (by rw [there, filled]))] at authorized
      cases authorized
    cases planned : g.validator.plan g.check raw with
    | settled v =>
      rw [run_of_settled _ _ _ _ _ there filled planned] at authorized
      exact absurd (conclude_authorized_iff.1 authorized).1 (Validator.settled_result_ne_ok planned claims)
    | needsKey keyId resume =>
      rw [run_of_needsKey _ _ _ _ _ there filled planned] at authorized
      obtain ⟨t, entry, written, found, accepted, rfl, allowed⟩ := accepted_of_conclude planned authorized
      obtain ⟨exp, expires, as⟩ := accepted.exists_expiry written g.rolesSetting
      exact ⟨raw, exp, rfl, expires, as⟩

/-! ### Who is served -/

/-- **How a request for the caller's profile is answered** whose token expires at a number of seconds. -/
structure ServedAs (own : Reply) (caller : Principal) (exp : Number) : Prop where
  timely : exp.Timely → own.status = 200 ∧
    ∃ claims text, caller.expiresAt.text? = some text ∧ own.text = (profile caller claims text).render
  late : ¬exp.Timely → own.status = 500

/-- A request for a profile is turned away, or it is answered by the expiry of its token. -/
theorem Introducing.served {u : Service} {r : Request} {turns : List (Turn ServiceState)} {own : Reply}
    (introducing : Introducing u r turns own) (gets : r.method = "GET") :
    (∃ cause, IsRefusal u (some profileMatch) r cause own) ∨
      ∃ caller raw exp, Vouched u.gate r .anyone turns caller ∧
        bearerToken? (r.header? "authorization") = some raw ∧ Token.ExpiresAt raw exp ∧ caller.ExpiresAs exp ∧
        ServedAs own caller exp := by
  cases introducing with
  | refused refusal => exact .inl ⟨_, refusal⟩
  | timeless vouched timeless status =>
    obtain ⟨raw, exp, token, expires, as⟩ := vouched.exists_expiry
    have late := as.late_of_timeless timeless
    exact .inr ⟨_, raw, exp, vouched, token, expires, as, fun timely => absurd timely late, fun _ => status⟩
  | @told caller claims expiresAt id vouched shown id_fine reply =>
    obtain ⟨raw, exp, token, expires, as⟩ := vouched.exists_expiry
    have text : own.text = (profile caller claims expiresAt).render := by
      rw [reply, jsonReplyOf, shows_of_gets gets]
      rfl
    exact .inr ⟨caller, raw, exp, vouched, token, expires, as,
      fun _ => ⟨by rw [reply]; rfl, claims, expiresAt, shown, text⟩, fun late => absurd (as.timely_of_shown shown) late⟩

/-- Without a name an order comes to nothing. -/
theorem Settling.status_of_nameless {s : Service} {context : RequestContext} {order : OrderRequest}
    {calls : List (OutboundCall × CallEnd)} {status : Nat} {placed : Option OrderInput}
    (settling : Settling s context order calls status placed) {made : OutboundCall × CallEnd}
    (first : made ∈ calls.head?) (nameless : ∀ name, ¬made.2.Gives userShape name) : status = 502 := by
  cases settling with
  | uncalled failed => cases first
  | nameless prepared nothing => rfl
  | unasked named failed | gone named prepared missing | offerless named prepared nothing there
  | short named prepared gives less | settled named prepared gives enough =>
    cases first
    exact absurd named.gives (nameless _)

theorem Placing.status_of_nameless {s : Service} {r : Request} {context : RequestContext}
    {arrival last : ServiceState} {turns : List (Turn ServiceState)} {reply : Reply}
    (placing : Placing s r context arrival turns last reply) {made : OutboundCall × CallEnd}
    (first : made ∈ (callsOf turns).head?) (nameless : ∀ name, ¬made.2.Gives userShape name) : reply.status = 502 := by
  cases placing with
  | failed vouched read fit settling unchanging => exact settling.status_of_nameless first nameless
  | placed vouched read fit status settling turning text => cases settling.status_of_nameless first nameless
  | refused gate uncalled unchanging | unreadable faulty status uncalled unchanging
  | invalid read unfit status uncalled unchanging =>
    rw [uncalled] at first
    cases first

/-- A reply that is no success gives nothing. -/
theorem CallEnd.not_gives_of_status {α : Type} {e : CallEnd} {reply : TransportReply} (replied : e.reply = some reply)
    (failed : isSuccess reply.status = false) (shape : Json → Option α) (data : α) : ¬e.Gives shape data := by
  rintro ⟨reply', body, there, -, success, -⟩
  obtain rfl : reply = reply' := Option.some.inj (replied.symm.trans there)
  rw [failed] at success
  cases success

/-- **How the call for a name ends** under a token that expires at a number of seconds: the user service turns it
away, or it gives the caller's name if the expiry is timely, and otherwise fails, and the order with it. -/
inductive NamedAs (made : OutboundCall × CallEnd) (sent : TransportReply) (own : Reply) (caller : Principal)
    (exp : Number) : Prop
  | refused {cause : Rejection} (status : sent.status = cause.reason.status)
  | timely (timely : exp.Timely) (status : sent.status = 200) (gives : made.2.Gives userShape caller.username)
  | late (late : ¬exp.Timely) (status : sent.status = 500) (failed : own.status = 502)

namespace Site

/-- **Callers whose token expires at a timely number of seconds are served.**  Whoever the gate authorizes has the
instant of the expiry, if that is timely.  Then the user service answers every request of the caller for the own
profile with one, and every call for it on behalf of an order with the caller's name.  For any other expiry the caller
has no instant, the profile is not shown, and the order is not placed. -/
theorem timely_callers_served (s u : Service) :
    (∀ {σ : Type} {g : Gate} {lookup : String → StateM σ KeyAnswer} {clock : StateM σ Number}
      {context : RequestContext} {requirement : Requirement} {world : σ} {claims : Claims} {caller : Principal},
      (g.run lookup clock context requirement world).1.1 = .authorized claims caller →
      ∃ raw exp, context.token = some raw ∧ Token.ExpiresAt raw exp ∧ caller.ExpiresAs exp) ∧
    (∀ {stores : ServiceState} {events : List Event}, (∀ e ∈ events, e.Gives Real) →
      ∀ {n : Nat} {w : Visit} {last : ServiceState} {own : Reply},
      (after u ServiceName.userService.endpoints { state := stores } events).visits[n]? = some w →
      w.request.AsksForProfile → w.request.Deliverable → w.standing = .done last (some own) →
      (∃ cause, IsRefusal u (some profileMatch) w.request cause own) ∨
        ∃ caller raw exp, Vouched u.gate w.request .anyone w.turns caller ∧
          bearerToken? (w.request.header? "authorization") = some raw ∧ Token.ExpiresAt raw exp ∧
          caller.ExpiresAs exp ∧ ServedAs own caller exp) ∧
    ∀ {stores : ServiceState} {events : List Event}, (∀ e ∈ events, e.Gives Real) →
      ∀ {n : Nat} {v : Visit} {m : Match} {st : ServiceState} {own : Reply},
      (after s ServiceName.orderService.endpoints { state := stores } events).visits[n]? = some v →
      routed? ServiceName.orderService.endpoints v.request = some (some m) → m.endpoint = .createOrder →
      v.request.Deliverable → (∀ h ∈ v.request.header? "authorization", Delivered h) →
      v.standing = .done st (some own) →
      ∀ {made : OutboundCall × CallEnd} {sent : TransportReply}, made ∈ (callsOf v.turns).head? →
      made.2.reply = some sent → ProfileReply u made.1 sent →
      ∃ caller raw exp, Vouched s.gate v.request .anyone v.turns caller ∧
        bearerToken? (v.request.header? "authorization") = some raw ∧ Token.ExpiresAt raw exp ∧
        NamedAs made sent own caller exp := by
  refine ⟨Gate.exists_expiry_of_run, ?profiles, ?orders⟩
  case profiles =>
    intro stores events real n w last own there asks deliverable ended
    obtain ⟨own', same, introducing⟩ := Site.introducing real there asks deliverable ended
    obtain rfl : own = own' := Option.some.inj same
    exact introducing.served asks.gets
  case orders =>
    intro stores events real n v m st own there routed creates deliverable delivered ended made sent first replied
      answered
    obtain ⟨own', context, same, token, fine, placing, -⟩ := placing real there routed creates deliverable ended
    obtain rfl : own = own' := Option.some.inj same
    have called : callsOf v.turns ≠ [] := List.ne_nil_of_mem (List.mem_of_mem_head? first)
    obtain ⟨caller, order, status, placed, vouched, settling⟩ := placing.exists_settling called
    obtain ⟨raw, exp, own_token, expires, -⟩ := vouched.exists_expiry
    refine ⟨caller, raw, exp, vouched, own_token, expires, ?_⟩
    obtain ⟨r', turns', reply, gets, deliverable', same_token, introducing, arrives, sent_status⟩ :=
      exists_introducing (settling.prepared_first made first) vouched token fine deliverable delivered answered
    rcases introducing.served gets with ⟨cause, id, now, -, refused⟩ |
      ⟨caller', raw', exp', vouched', token', expires', -, served⟩
    · exact .refused (sent_status.trans refused)
    obtain rfl : raw = raw' := Option.some.inj (own_token.symm.trans (same_token.symm.trans token'))
    obtain rfl := expires.unique expires'
    by_cases timely : exp.Timely
    · have success := (served.timely timely).1
      obtain ⟨caller'', sent', vouched'', arrives', gives⟩ :=
        introducing.gives gets deliverable' (by rw [success]; rfl)
      obtain rfl : sent = sent' := Option.some.inj (arrives.symm.trans arrives')
      rw [vouched.username_eq vouched'' same_token] at gives
      obtain ⟨reply', body, there', read, successful, shaped⟩ := gives
      cases there'
      exact .timely timely (sent_status.trans success) ⟨sent, body, replied, read, successful, shaped⟩
    · have failure := sent_status.trans (served.late timely)
      refine .late timely failure (placing.status_of_nameless first ?_)
      exact CallEnd.not_gives_of_status replied (by rw [failure]; decide) userShape

end Site

/-! ### In the small shop -/

namespace SmallShop

/-- A pass for the user `s` that expires one second after the last instant. -/
def latePass : String :=
  "eyJhbGciOiJSUzI1NiIsImtpZCI6ImsifQ.eyJzdWIiOiJzIiwiaXNzIjoiaSIsImF1ZCI6ImEiLCJleHAiOjg2NDAwMDAwMDAwMDF9.AQID"

/-- The one key of the shop, under every id. -/
def shopKey (_ : String) : StateM Unit KeyAnswer := pure (.found ⟨"k", .rsa ⟨33, 3⟩, .rs256⟩)

/-- What the gate of the service for users makes of a pass. -/
def ruling (token : String) : Decision :=
  (users.gate.run shopKey (pure 0) { requestId := "", token := some token } .anyone ()).1.1

/-- The instant at which a caller's token expires, if the caller is authorized. -/
def instant? : Decision → Option Instant
  | .authorized _ caller => some caller.expiresAt
  | _ => none

/-- Whoever bears an accepted pass is authorized. -/
theorem ruling_of_accepted {raw : String} {exp : Number} (written : Token.Written raw (passToken raw exp))
    (accepted : Token.Accepted users.gate.validator users.gate.check (passToken raw exp) "k" shopKeyEntry 0) :
    ruling raw = .authorized (passToken raw exp).claims ((passToken raw exp).claims.principal users.gate.rolesSetting) := by
  have planned : users.gate.validator.plan users.gate.check raw =
      .needsKey "k" (users.gate.validator.resumption users.gate.check (passToken raw exp) .rs256) :=
    Validator.plan_eq_needsKey_iff.2 ⟨_, _, written, accepted.toEligible, rfl⟩
  unfold ruling
  rw [Gate.run_of_needsKey _ _ _ _ _ rfl (Gate.ne_empty_of_written written) planned]
  exact Gate.conclude_authorized_iff.2
    ⟨(Validator.resumption_eq_ok_iff accepted.toEligible).2 ⟨shopKeyEntry, rfl, accepted, rfl⟩, rfl,
      Requirement.allows_iff.2 (.inl rfl)⟩

/-- The user is authorized. -/
theorem instant_of_pass : instant? (ruling pass) = some (.valid 4000000000000) := by
  rw [ruling_of_accepted written_pass (accepted_pass _ _)]
  decide +kernel

/-- When the late pass expires. -/
def lateExpiry : Number := .finite (8640000000001 * Number.scale)

theorem written_latePass : Token.Written latePass (passToken latePass lateExpiry) :=
  written_passToken "eyJzdWIiOiJzIiwiaXNzIjoiaSIsImF1ZCI6ImEiLCJleHAiOjg2NDAwMDAwMDAwMDF9" (by decide) (by decide)
    (by decide +kernel)

theorem accepted_latePass : Token.Accepted users.gate.validator users.gate.check (passToken latePass lateExpiry) "k"
    shopKeyEntry 0 :=
  accepted_passToken _ _ (by decide +kernel) (by decide +kernel)

end SmallShop

namespace Site

/-- In the small shop the user is authorized until late in the century, is told the profile, and places an order under
the name that the profile has. -/
theorem timely_callers_served_small_shop :
    (∃ claims caller raw exp, SmallShop.ruling SmallShop.pass = .authorized claims caller ∧
      Token.ExpiresAt raw exp ∧ caller.ExpiresAs exp) ∧
    (∃ events w own caller exp, (∀ e ∈ events, Event.Gives Real e) ∧
      (after SmallShop.users ServiceName.userService.endpoints { state := {} } events).visits[0]? = some w ∧
      w.request = SmallShop.read "/api/users/me" ∧ own.status = 200 ∧
      Vouched SmallShop.users.gate w.request .anyone w.turns caller ∧ ServedAs own caller exp) ∧
    ∃ first more ordered asked own, SmallShop.Day "/api/orders" first more ordered asked ∧
      (∃ st, ordered.standing = .done st (some own)) ∧ own.status = 201 ∧
      ∀ made ∈ (callsOf ordered.turns).head?, ∀ sent, made.2.reply = some sent →
        ∃ caller exp, Vouched SmallShop.shop.gate ordered.request .anyone ordered.turns caller ∧
          NamedAs made sent own caller exp := by
  obtain ⟨authorized, introduced, ordering⟩ := timely_callers_served SmallShop.shop SmallShop.users
  refine ⟨?_, ?_, ?_⟩
  · have ruled := SmallShop.instant_of_pass
    cases ruling : SmallShop.ruling SmallShop.pass with
    | authorized claims caller =>
      obtain ⟨raw, exp, -, expires, as⟩ := authorized ruling
      exact ⟨claims, caller, raw, exp, rfl, expires, as⟩
    | rejected cause last =>
      rw [ruling] at ruled
      cases ruled
    | broken why =>
      rw [ruling] at ruled
      cases ruled
  · obtain ⟨events, w, last, own, real, there, request, ended, status⟩ := SmallShop.exists_introduced
    rcases introduced real there (by rw [request]; exact SmallShop.asksForProfile_read)
      (by rw [request]; exact SmallShop.deliverable_read _) ended with ⟨cause, refusal⟩ |
      ⟨caller, raw, exp, vouched, -, -, -, served⟩
    · have listed := refusal.status_mem
      rw [status] at listed
      exact absurd listed (by decide)
    · exact ⟨events, w, own, caller, exp, real, there, request, status, vouched, served⟩
  · obtain ⟨first, more, ordered, asked, day⟩ := SmallShop.exists_day "/api/orders"
    obtain ⟨st, own, placed, status⟩ := day.exists_own
    refine ⟨first, more, ordered, asked, own, day, ⟨st, placed⟩, status, fun made member sent replied => ?_⟩
    obtain ⟨caller, raw, exp, vouched, -, -, named⟩ := ordering (SmallShop.real_of_gives day.gives_first)
      day.ordered_there day.routed rfl day.deliverable day.delivered placed member replied
      (day.answered made member sent replied)
    exact ⟨caller, exp, vouched, named⟩

/-- **A token that expires too late is accepted all the same.**  Its caller is authorized and has no instant of expiry,
and instead of the profile is told `500`. -/
theorem late_caller_not_served :
    SmallShop.instant? (SmallShop.ruling SmallShop.latePass) = some .invalid ∧
      ((respond SmallShop.users ServiceName.userService.endpoints
          { SmallShop.read "/api/users/me" with headers := [("authorization", "Bearer " ++ SmallShop.latePass)] }
          {}).played (SmallShop.answers fun _ => none)).2.map Reply.status = some 500 := by
  constructor
  · rw [SmallShop.ruling_of_accepted SmallShop.written_latePass SmallShop.accepted_latePass]
    decide +kernel
  · have routed : routed? ServiceName.userService.endpoints { SmallShop.read "/api/users/me" with
        headers := [("authorization", "Bearer " ++ SmallShop.latePass)] } = some (some ⟨.me, []⟩) := by decide +kernel
    rewrite [SmallShop.users, SmallShop.played_passToken _ SmallShop.written_latePass SmallShop.accepted_latePass routed
      (by decide) rfl (by decide +kernel)]
    decide +kernel

end Site

end BearerGate
