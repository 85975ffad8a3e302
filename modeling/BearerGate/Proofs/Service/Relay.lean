import BearerGate.Proofs.Http.JsonType
import BearerGate.Proofs.Json.Text
import BearerGate.Proofs.Service.Call
import BearerGate.Proofs.Service.Refusal
import BearerGate.Service.Transport

/-!
# What is passed through

A relayed request and its answer keep their JSON values on the way (`relay_passes`): the value of the body goes
out as JSON with that value, and the value that comes back goes to the client as JSON with that value, under the
same status and with the headers that say why a service refused and when to come again.

Two values do not get through.  An answer that is a text goes to the client without its quotes, and one that is
`null` as nothing at all, both still under a JSON content type (`relay_unquotes`); and a body that is `null` is not
handed on.
-/

namespace BearerGate

/-! ### The answer that is passed back -/

/-- **A JSON value in the reply of another service:** a JSON content type, a status that allows a body, a text
that stands for the value, and headers as HTTP delivers them. -/
structure TransportReply.Carries (t : TransportReply) (type : String) (v : Json) : Prop where
  typed : t.headers.get? "content-type" = some type
  json : isJsonType type = true
  allowed : ResponseStep.bodyless t.status = false
  read : Json.parseChars? (Text.Utf8.decodeBody t.body) = some v
  deliverable : ∀ e ∈ t.headers.entries, isReplyHeader e = true

/-- **The values that go through** under a content type: where it is spelled in small letters, all but texts and
`null`; and their numbers are finite. -/
structure GoesThrough (type : String) (v : Json) : Prop where
  finite : v.AllFinite
  value : mentions "json" type = true → v ≠ .null ∧ ∀ s, v ≠ .string s

/-- The response that a reply is read as. -/
def TransportReply.response (t : TransportReply) (body : Json) : ServiceResponse := ⟨t.status, t.headers, body⟩

/-- The body of a reply with a JSON value is read as that value, or else as its text. -/
theorem readBody?_of_carries {t : TransportReply} {type : String} {v : Json} (carries : t.Carries type v) :
    readBody? t = some (if mentions "json" type then v
      else .string (String.ofList (Text.Utf8.decodeBody t.body))) := by
  have filled : Text.Utf8.decodeBody t.body ≠ [] := by
    intro empty
    have read := carries.read
    rw [empty] at read
    cases read
  simp only [readBody?, if_neg filled, carries.typed, Option.getD_some]
  by_cases spelled : mentions "json" type = true
  · rw [if_pos spelled, ← carries.read]
    exact if_pos spelled
  · rw [if_neg spelled]
    exact if_neg spelled

/-- **What goes through is sent as a text that stands for it.** -/
theorem parse?_relayed {t : TransportReply} {type : String} {v body : Json} (carries : t.Carries type v)
    (goes : GoesThrough type v) (read : readBody? t = some body) :
    Json.parse? (relayedAnswer (t.response body)).payload.toText = some v := by
  rw [readBody?_of_carries carries] at read
  by_cases spelled : mentions "json" type = true
  · rw [if_pos spelled] at read
    cases read
    have back := Json.parse?_render_of_parseChars? carries.read goes.finite
    obtain ⟨not_null, not_text⟩ := goes.value spelled
    cases v with
    | null => exact absurd rfl not_null
    | string s => exact absurd rfl (not_text s)
    | _ => exact back
  · rw [if_neg spelled] at read
    cases read
    have text : (relayedAnswer (t.response (.string (String.ofList (Text.Utf8.decodeBody t.body))))).payload.toText =
        String.ofList (Text.Utf8.decodeBody t.body) := rfl
    rw [text, Json.parse?, String.toList_ofList]
    exact carries.read

/-! ### Its headers -/

/-- The headers that are passed back besides the content type. -/
def passedHeaders (h : Headers) : Table String := relayedHeaders.filterMap fun name => (h.get? name).map (name, ·)

theorem relayedAnswer_headers {response : ServiceResponse} {type : String}
    (typed : response.headers.get? "content-type" = some type) (filled : type ≠ "") :
    (relayedAnswer response).headers = ("content-type", type) :: passedHeaders response.headers := by
  simp only [relayedAnswer, ServiceResponse.contentType?, typed, Option.bind_some, if_neg filled]
  rfl

/-- **Each of the headers that are passed back** is there as it was, or not at all. -/
theorem get?_passedHeaders (h : Headers) {name : String} (passed : name ∈ relayedHeaders) :
    Table.get? (passedHeaders h) name = h.get? name := by
  have both : passedHeaders h = ((h.get? "www-authenticate").map ("www-authenticate", ·)).toList ++
      ((h.get? "retry-after").map ("retry-after", ·)).toList := by
    simp only [passedHeaders, relayedHeaders, List.filterMap_cons, List.filterMap_nil]
    cases h.get? "www-authenticate" <;> cases h.get? "retry-after" <;> rfl
  have other : "www-authenticate" ≠ "retry-after" := by decide
  rw [both, Table.get?_append]
  simp only [relayedHeaders, List.mem_cons, List.not_mem_nil, or_false] at passed
  rcases passed with rfl | rfl
  · cases h.get? "www-authenticate" <;> cases h.get? "retry-after" <;> simp [Table.get?, other.symm]
  · cases h.get? "www-authenticate" <;> cases h.get? "retry-after" <;> simp [Table.get?, other]

/-- A value that is found in a list can be sent if all of the list can. -/
theorem isReplyHeader_of_get? {h : Headers} (deliverable : ∀ e ∈ h.entries, isReplyHeader e = true)
    {name own value : String} (there : h.get? name = some value) : isReplyHeader (own, value) = true := by
  obtain ⟨e, found, rfl⟩ := Option.map_eq_some_iff.1 there
  exact deliverable e (List.mem_of_find?_eq_some found)

theorem isReplyHeader_passedHeaders {h : Headers} (deliverable : ∀ e ∈ h.entries, isReplyHeader e = true) :
    ∀ e ∈ passedHeaders h, isReplyHeader e = true := by
  intro e member
  obtain ⟨name, -, there⟩ := List.mem_filterMap.1 member
  obtain ⟨value, found, rfl⟩ := Option.map_eq_some_iff.1 there
  exact isReplyHeader_of_get? deliverable found

/-- Changing the first entry of a table leaves the others as they are. -/
theorem Table.alter_cons_self {α : Type} {name : String} {a : α} {rest : Table α}
    (others : ∀ e ∈ rest, e.1 ≠ name) (f : Option α → α) :
    Table.alter ((name, a) :: rest) name f = (name, f (some a)) :: rest := by
  have kept : rest.map (fun e => if e.1 = name then (name, f (some e.2)) else e) = rest := by
    calc rest.map (fun e => if e.1 = name then (name, f (some e.2)) else e)
      _ = rest.map id := List.map_congr_left fun e member => if_neg (others e member)
      _ = rest := List.map_id rest
  rw [alter, if_pos (by simp), List.map_cons, kept]
  simp

/-- What goes out to the client for an answer that carries a JSON value. -/
def relayedReply (o : Outlet) (response : ServiceResponse) (type : String) : Reply where
  status := response.status
  headers := o.headers ++ ("content-type", contentType (some type) (relayedAnswer response).payload) ::
    passedHeaders response.headers
  text := (relayedAnswer response).payload.toText

/-- **The answer is sent at the first attempt.** -/
theorem attempt_relayed {o : Outlet} (open_text : o.withholdsText = false)
    (fine : ∀ h ∈ o.headers, isReplyHeader h = true) {t : TransportReply} {type : String} {v : Json}
    (carries : t.Carries type v) (body : Json) :
    o.attempt (.ofAnswer (relayedAnswer (t.response body))) = .ok (relayedReply o (t.response body) type) := by
  have filled : type ≠ "" := by
    rintro rfl
    exact absurd carries.json (by decide)
  have content : t.status ≠ noContent := by
    intro none
    have allowed := carries.allowed
    rw [none] at allowed
    cases allowed
  have full : (relayedAnswer (t.response body)).fullHeaders false =
      ("content-type", contentType (some type) (relayedAnswer (t.response body)).payload) ::
        passedHeaders t.headers := by
    have others : ∀ e ∈ passedHeaders t.headers, e.1 ≠ "content-type" := by
      intro e member
      obtain ⟨name, listed, there⟩ := List.mem_filterMap.1 member
      obtain ⟨value, -, rfl⟩ := Option.map_eq_some_iff.1 there
      have each : ∀ name ∈ relayedHeaders, name ≠ "content-type" := by decide
      exact each name listed
    rw [Answer.fullHeaders, if_neg fun none => content none.1, relayedAnswer_headers carries.typed filled]
    exact Table.alter_cons_self others _
  have sendable : badHeader? (o.headers ++ (relayedAnswer (t.response body)).fullHeaders false) = none := by
    refine badHeader?_eq_none ?_
    intro h member
    rw [full] at member
    rcases List.mem_append.1 member with own | passed
    · exact fine h own
    · rcases List.mem_cons.1 passed with rfl | other
      · exact isReplyHeader_contentType (isReplyHeader_of_get? carries.deliverable carries.typed) _
      · exact isReplyHeader_passedHeaders carries.deliverable h other
  have open_answer : ¬(false = true ∨ (relayedAnswer (t.response body)).status = noContent) := by
    rintro (withheld | none)
    · cases withheld
    · exact content none
  have reply_eq : (relayedAnswer (t.response body)).reply false =
      ⟨t.status, (relayedAnswer (t.response body)).fullHeaders false,
        (relayedAnswer (t.response body)).payload.toText⟩ := by
    rw [Answer.reply, if_neg open_answer]
    rfl
  simp only [Outlet.attempt, Draft.ofAnswer, open_text]
  rw [reply_eq]
  dsimp only
  rw [sendable, full]
  rfl

/-! ### The way of a relayed request -/

section Way

variable {s : Service} {m : Match} {r : Request} {ruling : Ruling} {caller : Principal}
  {st st' : ServiceState} {turns : List (Turn ServiceState)} {reply : Reply}

/-- What a handler is given behind the gate. -/
def inboundOf (m : Match) (r : Request) (context : RequestContext) (body : Json) : Inbound where
  request := r
  parameters := m.parameters
  context
  body

theorem handle_eq (s : Service) (m : Match) (r : Request) (context : RequestContext) :
    handle s (some m) r context =
      match readBody r with
      | .error f => pure (.error (.unreadable f.status f.message))
      | .ok body =>
        (m.endpoint.handler s (inboundOf m r context body)).run >>= fun result =>
          pure (result.map Draft.ofAnswer) := by
  unfold handle
  rw [bodyFor_some]
  rfl

/-- A request that is let in is handled, and what came of it is sent; only the handling calls anybody. -/
theorem handled_of_letIn {m : Option Match} (path : (letIn s m r ruling caller st).Reaches turns (.done st' reply)) :
    ∃ handled departed u v result, (handle s m r ruling.context u).Reaches handled (.done v result) ∧
      (depart s m r ruling result v).Reaches departed (.done st' reply) ∧ callsOf turns = callsOf handled := by
  have liberal := liberal_idle (σ := ServiceState) fun _ _ => True
  unfold letIn at path
  obtain ⟨turns₁, u₁, -, -, path, calls⟩ := callsOf_bind_idle (.record liberal _) path
  obtain ⟨turns₂, u₂, -, -, path, calls₁⟩ := callsOf_bind_idle (.log liberal _) path
  obtain ⟨handled, departed, v, result, before, after, -, calls₂⟩ := callsOf_bind path
  rw [callsOf_of_idle (within_depart liberal (within_send liberal _ r result)) after, List.append_nil] at calls₂
  exact ⟨handled, departed, u₂, v, result, before, after, calls.trans (calls₁.trans calls₂)⟩

/-- **A request that is let in where its endpoint relays:** if its body can be read and its segment is mapped, the
call is prepared, and either that fails and nobody is called, or the call is the only one; what is sent is what
came of it. -/
theorem relay_of_letIn (relays : m.endpoint = .relay)
    (path : (letIn s (some m) r ruling caller st).Reaches turns (.done st' reply)) {body : Json}
    (read : readBody r = .ok body) {target : ServiceName}
    (mapped : Table.get? s.config.gatewayRoutes (segmentOf r.target) = some target) :
    ∃ result rest u,
      (depart s (some m) r ruling (result.map Draft.ofAnswer) u).Reaches rest (.done st' reply) ∧
      ((∃ fault, prepareCall s.registry ruling.context
          (relayRequest (inboundOf m r ruling.context body) target) = .error fault ∧ callsOf turns = [] ∧
          result = .error fault.fault) ∨
        ∃ call log ending, prepareCall s.registry ruling.context
            (relayRequest (inboundOf m r ruling.context body) target) = .ok (call, log) ∧
          callsOf turns = [(call, ending)] ∧
          result = ((concludeCall s.config.downstreamTimeoutMs
            (relayRequest (inboundOf m r ruling.context body) target) call ending).result.mapError
              .downstream).map relayedAnswer) := by
  obtain ⟨handled, departed, u, v, result, before, after, calls⟩ := handled_of_letIn path
  have handler : m.endpoint.handler = relayHandler := by
    rw [relays]
    rfl
  rw [handle_eq, read, handler] at before
  obtain ⟨first, last, w, answer, ran, ended, -, calls₁⟩ := callsOf_bind before
  obtain ⟨rfl, rfl⟩ := eq_of_reaches_pure ended
  rw [calls₁, show callsOf ([] : List (Turn ServiceState)) = [] from rfl, List.append_nil] at calls
  refine ⟨answer, departed, v, after, ?_⟩
  rw [calls]
  exact relay_ends (i := inboundOf m r ruling.context body) mapped ran

/-- **Nobody is called** if the body cannot be read or the segment is not mapped. -/
theorem mapped_of_called (relays : m.endpoint = .relay)
    (path : (letIn s (some m) r ruling caller st).Reaches turns (.done st' reply)) (called : callsOf turns ≠ []) :
    ∃ body target, readBody r = .ok body ∧
      Table.get? s.config.gatewayRoutes (segmentOf r.target) = some target := by
  obtain ⟨handled, departed, u, v, result, before, after, calls⟩ := handled_of_letIn path
  have handler : m.endpoint.handler = relayHandler := by
    rw [relays]
    rfl
  rw [calls] at called
  rw [handle_eq, handler] at before
  cases read : readBody r with
  | error f =>
    rw [read] at before
    obtain ⟨rfl, -⟩ := eq_of_reaches_pure before
    exact absurd rfl called
  | ok body =>
    rw [read] at before
    obtain ⟨first, last, w, answer, ran, ended, -, calls₁⟩ := callsOf_bind before
    obtain ⟨rfl, rfl⟩ := eq_of_reaches_pure ended
    rw [calls₁, show callsOf ([] : List (Turn ServiceState)) = [] from rfl, List.append_nil] at called
    cases mapped : Table.get? s.config.gatewayRoutes (segmentOf r.target) with
    | none => exact absurd (relay_ends_unmapped (i := inboundOf m r ruling.context body) mapped ran).1 called
    | some target => exact ⟨body, target, rfl, rfl⟩

/-- What can be sent at the first attempt is what the client gets. -/
theorem reply_of_depart {m : Option Match} {d : Draft} {sent : Reply} {u : ServiceState}
    (goes : (s.outlet m r ruling.id).attempt d = .ok sent)
    (path : (depart s m r ruling (.ok d) u).Reaches turns (.done st' reply)) : reply = sent := by
  have liberal := liberal_idle (σ := ServiceState) fun _ _ => True
  have once : Task.Within (Contract.idle ServiceState fun _ _ => True) (fun reply => reply = sent)
      ((s.outlet m r ruling.id).send r (.ok d)) := by
    unfold Outlet.send Outlet.sendDraft
    dsimp only
    rw [goes]
    exact .pure rfl
  exact ((within_depart liberal once u).of_reaches path fun _ _ => trivial).2

end Way

/-! ### What is handed on -/

/-- What is read from the body of a request is settled. -/
theorem settled_of_readBody {r : Request} {w : Json} (read : readBody r = .ok w) : w.Settled := by
  unfold readBody at read
  split at read
  · cases read
    exact .null
  · split at read
    · cases read
    · rename_i reader _
      dsimp only at read
      split at read
      · cases read
      · cases reader with
        | plainText =>
          cases read
          exact .string _
        | json =>
          change readJson _ = _ at read
          unfold readJson at read
          split at read
          · cases read
          · split at read
            · cases read
            · rename_i parsed
              split at read
              · cases read
              · cases read
                exact Json.settled_of_parseChars? parsed

/-- The names of the headers that every reply may have. -/
def outletNames : List String :=
  ["vary", "access-control-allow-origin", "access-control-expose-headers", "x-request-id"]

theorem mem_outletNames {s : Service} {m : Option Match} {r : Request} {id : String} :
    ∀ h ∈ (s.outlet m r id).headers, h.1 ∈ outletNames := by
  intro h member
  simp only [Service.outlet, Service.corsHeaders, corsHeaders, List.mem_append, Option.mem_toList,
    List.mem_singleton, Option.map_eq_some_iff] at member
  rcases member with ((varies | ⟨origin, -, rfl⟩) | rfl) | rfl
  · split at varies
    · cases varies
    · rw [List.mem_singleton.1 varies]
      decide
  · exact List.mem_cons_of_mem _ List.mem_cons_self
  · decide
  · change "x-request-id" ∈ outletNames
    decide

/-- The headers that every reply has are none of those that are passed back. -/
theorem get?_outlet_append {m : Option Match} (s : Service) (r : Request) (id : String) (own : Table String)
    {name : String} (passed : name ∈ "content-type" :: relayedHeaders) :
    Table.get? ((s.outlet m r id).headers ++ own) name = Table.get? own name := by
  have apart : ∀ name ∈ "content-type" :: relayedHeaders, name ∉ outletNames := by decide
  have absent : Table.get? (s.outlet m r id).headers name = none := by
    refine Table.get?_eq_none_iff.2 fun h member same => ?_
    rw [← same] at passed
    exact apart _ passed (mem_outletNames h member)
  rw [Table.get?_append, absent, Option.none_or]

/-- **What the client gets for a reply that carries a JSON value:** the answer that is passed back, at the first
attempt; and what was called is the call that was prepared for the body of the request. -/
theorem reply_of_carries {s : Service} {m : Match} {r : Request} {ruling : Ruling} {caller : Principal}
    {st st' : ServiceState} {turns : List (Turn ServiceState)} {reply : Reply} (relays : m.endpoint = .relay)
    (full : r.method ≠ "HEAD") (deliverable : r.Deliverable)
    (id_fine : isReplyHeader ("x-request-id", ruling.id) = true)
    (path : (letIn s (some m) r ruling caller st).Reaches turns (.done st' reply))
    {call : OutboundCall} {ending : CallEnd} (made : (call, ending) ∈ callsOf turns)
    {t : TransportReply} (answered : ending.reply = some t) {type : String} {v : Json}
    (carries : t.Carries type v) :
    ∃ seen body target log, readBody? t = some seen ∧
      reply = relayedReply (s.outlet (some m) r ruling.id) (t.response seen) type ∧
      readBody r = .ok body ∧ prepareCall s.registry ruling.context
        (relayRequest (inboundOf m r ruling.context body) target) = .ok (call, log) := by
  obtain ⟨body, target, read, mapped⟩ := mapped_of_called relays path (List.ne_nil_of_mem made)
  obtain ⟨result, rest, u, leaves, ends⟩ := relay_of_letIn relays path read mapped
  rcases ends with ⟨fault, -, none_made, -⟩ | ⟨call', log, ending', prepared, one, came⟩
  · rw [none_made] at made
    cases made
  rw [one] at made
  cases List.mem_singleton.1 made
  -- The reply of the other service is read, so what leaves is an answer and not a fault.
  have understood := readBody?_of_carries carries
  generalize (if mentions "json" type then v
    else .string (String.ofList (Text.Utf8.decodeBody t.body))) = seen at understood
  have concluded : (concludeCall s.config.downstreamTimeoutMs
      (relayRequest (inboundOf m r ruling.context body) target) call ending).result = .ok (t.response seen) := by
    simp only [concludeCall, answered, Option.bind_some, understood, Option.map_some]
    rfl
  rw [came, concluded] at leaves
  have open_text : (s.outlet (some m) r ruling.id).withholdsText = false := by
    change (true && decide (r.method = "HEAD")) = false
    rw [decide_eq_false full]
    rfl
  have sent := reply_of_depart (attempt_relayed open_text (isReplyHeader_outlet deliverable id_fine) carries seen) leaves
  exact ⟨seen, body, target, log, understood, sent, read, prepared⟩

/-- **JSON values go through the gateway.**  A request that is let in and relayed gets the status of the reply of
the other service, a JSON content type, a text that stands for the value of that reply if it is one that goes
through, and the headers that are passed back as they were; and if its own body has a value other than `null`,
that value was handed on as JSON. -/
theorem relay_passes {s : Service} {m : Match} {r : Request} {ruling : Ruling} {caller : Principal}
    {st st' : ServiceState} {turns : List (Turn ServiceState)} {reply : Reply} (relays : m.endpoint = .relay)
    (full : r.method ≠ "HEAD") (deliverable : r.Deliverable)
    (id_fine : isReplyHeader ("x-request-id", ruling.id) = true)
    (path : (letIn s (some m) r ruling caller st).Reaches turns (.done st' reply))
    {call : OutboundCall} {ending : CallEnd} (made : (call, ending) ∈ callsOf turns)
    {t : TransportReply} (answered : ending.reply = some t) {type : String} {v : Json}
    (carries : t.Carries type v) (goes : GoesThrough type v) :
    reply.status = t.status ∧
      (∃ own, Table.get? reply.headers "content-type" = some own ∧ isJsonType own = true) ∧
      Json.parse? reply.text = some v ∧
      (∀ name ∈ relayedHeaders, Table.get? reply.headers name = t.headers.get? name) ∧
      ∀ w, readBody r = .ok w → w ≠ .null → w.AllFinite →
        ∃ text, call.body = some text ∧ Json.parse? text = some w ∧
          call.headers.get? "content-type" = some "application/json" := by
  obtain ⟨seen, body, target, log, understood, rfl, read, prepared⟩ :=
    reply_of_carries relays full deliverable id_fine path made answered carries
  obtain ⟨base, -, -, handed, typed⟩ := prepareCall_eq_ok prepared
  refine ⟨rfl, ?_, parse?_relayed carries goes understood, ?_, ?_⟩
  · refine ⟨_, ?_, isJsonType_contentType carries.json (relayedAnswer (t.response seen)).payload⟩
    rw [relayedReply, get?_outlet_append s r ruling.id _ List.mem_cons_self, Table.get?_cons, if_pos rfl]
  · intro name passed
    have other : ∀ name ∈ relayedHeaders, "content-type" ≠ name := by decide
    rw [relayedReply, get?_outlet_append s r ruling.id _ (List.mem_cons_of_mem _ passed), Table.get?_cons,
      if_neg (other name passed)]
    exact get?_passedHeaders t.headers passed
  · intro w same not_null finite
    rw [read] at same
    cases same
    have handed_on : relayedBody body = some body := by
      unfold relayedBody
      split
      · exact absurd rfl not_null
      · rfl
    have asked : (relayRequest (inboundOf m r ruling.context body) target).body = some body := handed_on
    rw [asked] at handed typed
    exact ⟨_, handed, Json.parse?_render (settled_of_readBody read) finite, typed rfl⟩

/-- **What does not go through:** under a content type that is spelled in small letters a text loses its quotes on
the way to the client, and nothing is left of `null`. -/
theorem relay_unquotes {s : Service} {m : Match} {r : Request} {ruling : Ruling} {caller : Principal}
    {st st' : ServiceState} {turns : List (Turn ServiceState)} {reply : Reply} (relays : m.endpoint = .relay)
    (full : r.method ≠ "HEAD") (deliverable : r.Deliverable)
    (id_fine : isReplyHeader ("x-request-id", ruling.id) = true)
    (path : (letIn s (some m) r ruling caller st).Reaches turns (.done st' reply))
    {call : OutboundCall} {ending : CallEnd} (made : (call, ending) ∈ callsOf turns)
    {t : TransportReply} (answered : ending.reply = some t) {type : String} {v : Json}
    (carries : t.Carries type v) (spelled : mentions "json" type = true) :
    (v = .null → reply.text = "") ∧ ∀ text, v = .string text → reply.text = text := by
  obtain ⟨seen, body, target, log, understood, rfl, -, -⟩ :=
    reply_of_carries relays full deliverable id_fine path made answered carries
  rw [readBody?_of_carries carries, if_pos spelled] at understood
  cases understood
  constructor
  · rintro rfl
    rfl
  · rintro text rfl
    rfl

/-! ### One request -/

private def usersBase : Url where
  scheme := "http"
  host := some "users.test"
  path := .segments [""]

/-- A gateway in front of one service. -/
private def smallGateway : Service where
  config :=
    { environment := "test", serviceName := .gateway, host := "", port := 0, logLevel := "info"
      corsAllowedOrigins := [], downstreamTimeoutMs := 1000, serviceUrls := []
      gatewayRoutes := [("users", .userService)]
      auth :=
        { issuer := "i", audience := "a", jwksUri := "", rolesClaimPath := "", algorithms := [.rs256]
          clockToleranceSec := 0, jwksCacheTtlMs := 0, jwksRefreshCooldownMs := 0, jwksFetchTimeoutMs := 0 } }
  registry := ⟨[("user-service", usersBase)]⟩
  gate := { validator := { issuer := "i", audience := "a" }, check := fun _ _ _ _ => false, rolesSetting := "" }

private def posted (body : String) : Request where
  method := "POST"
  target := "/api/users"
  headers := [("content-type", "application/json")]
  body := some body

private def somebody : Principal where
  subject := "s"
  username := "s"
  email := ""
  roles := []
  expiresAt := .ofMillis 0

private def letThrough : Ruling where
  id := "r"
  start := 0
  decision := .authorized ⟨"s", "i", ["a"], none, .ofMillis 0, []⟩ somebody
  context := { requestId := "r", principal := some somebody }

private def jsonReply (body : List UInt8) : TransportReply where
  status := 200
  headers := ⟨[("content-type", "application/json"), ("retry-after", "5")]⟩
  body

/-- A world in which every call ends with one reply. -/
private def replying (t : TransportReply) : (q : Ask) → q.Answer
  | .time => (0 : Number)
  | .timer => (0 : Int)
  | .requestNumber => (0 : Nat)
  | .key _ => .absent
  | .refreshKeys => .count 0
  | .heldKeys => ⟨[], none⟩
  | .keyStats => {}
  | .call _ => { reply := some t }
  | .log _ => ()
  | .record _ => ()
  | .metricsText => ""

/-- In a world that answers every question in one way, calls end in that way. -/
theorem ending_of_mem_callsOf {turns : List (Turn ServiceState)} {answer : (q : Ask) → q.Answer}
    (answered : ∀ t ∈ turns, answer t.question = t.answer) {call : OutboundCall} {ending : CallEnd}
    (made : (call, ending) ∈ callsOf turns) : ending = answer (.call call) := by
  obtain ⟨⟨left, question, given, back⟩, member, found⟩ := List.mem_filterMap.1 made
  cases question with
  | call own =>
    cases found
    exact (answered _ member).symm
  | _ => cases found

/-- **The request is relayed** and meets the reply, once. -/
private theorem exists_relayed (t : TransportReply) {body : String} {v : Json}
    (read : readBody (posted body) = .ok v) :
    ∃ turns st' reply call,
      (letIn smallGateway (some ⟨.relay, []⟩) (posted body) letThrough somebody {}).Reaches turns
        (.done st' reply) ∧
      (call, { reply := some t }) ∈ callsOf turns := by
  obtain ⟨turns, st', path, answered⟩ := Step.reaches_run (fun q => (pure (replying t q) : StateM Unit q.Answer))
    (pure {}) (fun _ => pure ()) (letIn smallGateway (some ⟨.relay, []⟩) (posted body) letThrough somebody {}) ()
  have steady : ∀ turn ∈ turns, replying t turn.question = turn.answer := by
    intro turn member
    obtain ⟨world, same⟩ := answered turn member
    exact same
  have mapped : Table.get? smallGateway.config.gatewayRoutes (segmentOf (posted body).target) =
      some .userService := by
    change Table.get? [("users", ServiceName.userService)] (segmentOf "/api/users") = _
    decide
  obtain ⟨result, rest, u, -, ends⟩ := relay_of_letIn rfl path read mapped
  rcases ends with ⟨fault, failed, -, -⟩ | ⟨call, log, ending, -, one, -⟩
  · have joined : joinUrl? usersBase "/api/users" = some { usersBase with path := .segments ["api", "users"] } := by
      decide +kernel
    have bearer : ∀ token, letThrough.context.bearer? = some token →
        (Headers.value? ("Bearer " ++ token)).isSome = true := fun token held => by cases held
    obtain ⟨call, log, prepared⟩ : ∃ call log, prepareCall smallGateway.registry letThrough.context
        (relayRequest (inboundOf ⟨.relay, []⟩ (posted body) letThrough.context v) .userService) = .ok (call, log) :=
      exists_prepareCall rfl rfl bearer joined
    rw [prepared] at failed
    cases failed
  · have made : (call, ending) ∈ callsOf turns := by
      rw [one]
      exact List.mem_singleton_self _
    obtain rfl := ending_of_mem_callsOf steady made
    exact ⟨turns, st', _, call, path, made⟩

private theorem deliverable_posted (body : String) : (posted body).Deliverable := by
  intro h member
  rw [List.mem_singleton.1 member]
  decide

/-- The text `[true]`. -/
private def arrayReply : TransportReply := jsonReply [0x5b, 0x74, 0x72, 0x75, 0x65, 0x5d]

/-- The text `"abc"`, in its quotes. -/
private def textReply : TransportReply := jsonReply [0x22, 0x61, 0x62, 0x63, 0x22]

private def truthText : List Char := ['[', 't', 'r', 'u', 'e', ']']

private theorem readBody_posted : readBody (posted (String.ofList truthText)) = .ok (.array [.bool true]) := by
  have type : bodyType? (posted (String.ofList truthText)) = some "application/json" := rfl
  have reader : bodyReader? "application/json" = some .json := by decide +kernel
  have length : lengthFault? ((posted (String.ofList truthText)).header? "content-length")
      (String.ofList truthText) = none := by decide +kernel
  have parsed : Json.parseChars? (Text.Utf8.dropMark truthText) = some (.array [.bool true]) := by cbv
  have fine : forbidden? (.array [.bool true]) = none := by cbv
  have filled : String.ofList truthText ≠ "" := by decide
  have body : (posted (String.ofList truthText)).body.getD "" = String.ofList truthText := rfl
  simp only [readBody, type, reader, body, length, BodyReader.read, readJson, if_neg filled, String.toList_ofList,
    parsed, fine]

/-- An array goes through the gateway, there and back. -/
theorem relay_passes_array : ∃ turns st' reply call,
    (letIn smallGateway (some ⟨.relay, []⟩) (posted (String.ofList truthText)) letThrough somebody {}).Reaches turns
      (.done st' reply) ∧
    (call, { reply := some arrayReply }) ∈ callsOf turns ∧
    reply.status = 200 ∧ Json.parse? reply.text = some (.array [.bool true]) ∧
    Table.get? reply.headers "retry-after" = some "5" ∧
    ∃ text, call.body = some text ∧ Json.parse? text = some (.array [.bool true]) := by
  obtain ⟨turns, st', reply, call, path, made⟩ :=
    exists_relayed arrayReply readBody_posted
  have carries : arrayReply.Carries "application/json" (.array [.bool true]) :=
    { typed := rfl
      json := by decide
      allowed := rfl
      read := show Json.parseChars? truthText = _ by cbv
      deliverable := by decide }
  have finite : (Json.array [.bool true]).AllFinite := .array fun j member => by
    rw [List.mem_singleton.1 member]
    exact .bool true
  have goes : GoesThrough "application/json" (.array [.bool true]) :=
    { finite
      value := fun _ => ⟨(fun same => by cases same), (fun s same => by cases same)⟩ }
  obtain ⟨status, -, value, headers, handed⟩ :=
    relay_passes rfl (by decide) (deliverable_posted _) (by decide) path made rfl carries goes
  obtain ⟨text, sent, stands, -⟩ := handed _ readBody_posted (fun same => by cases same) finite
  refine ⟨turns, st', reply, call, path, made, status, value, ?_, text, sent, stands⟩
  rw [headers "retry-after" (by decide)]
  rfl

/-- **A text goes to the client without its quotes,** so that the client cannot read what the service said. -/
theorem relay_changes_text : ∃ turns st' reply call,
    (letIn smallGateway (some ⟨.relay, []⟩) (posted (String.ofList truthText)) letThrough somebody {}).Reaches turns
      (.done st' reply) ∧
    (call, { reply := some textReply }) ∈ callsOf turns ∧
    textReply.Carries "application/json" (.string "abc") ∧
    reply.text = "abc" ∧ Json.parse? reply.text = none := by
  obtain ⟨turns, st', reply, call, path, made⟩ :=
    exists_relayed textReply readBody_posted
  have carries : textReply.Carries "application/json" (.string "abc") :=
    { typed := rfl
      json := by decide
      allowed := rfl
      read := rfl
      deliverable := by decide }
  have unquoted := relay_unquotes rfl (by decide) (deliverable_posted _) (by decide) path made rfl carries (by decide)
  have text : reply.text = "abc" := unquoted.2 "abc" rfl
  refine ⟨turns, st', reply, call, path, made, carries, text, ?_⟩
  rw [text]
  rfl

end BearerGate
