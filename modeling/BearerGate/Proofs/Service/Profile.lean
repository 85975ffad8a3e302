import BearerGate.Proofs.Service.Address
import BearerGate.Proofs.Service.Ordering
import BearerGate.Proofs.Text.Utf8

/-!
# A caller's own profile

A token names its bearer in one way, however a service reads roles out of it (`Vouched.username_eq`).  The user
service puts that name into the profile of the caller.  This file follows it there and back: into the profile
(`Introducing`), into the reply as another service gets it, and out of that again by the reader's own check
(`Introducing.gives`).  So every profile that is sent passes the check, whatever the token says of its bearer.

A call for a profile that was prepared for a caller arrives with the caller's token (`Arrival`).
-/

namespace BearerGate

open Url

/-! ### The name of a caller -/

/-- No caller is without a name. -/
theorem username_ne_empty {c : Claims} (subject : c.subject ≠ "") (rolesSetting : String) :
    (c.principal rolesSetting).username ≠ "" := by
  unfold Claims.principal textClaim?
  dsimp only
  split
  · split
    · exact subject
    · assumption
  · exact subject

section Names

variable {σ : Type} {g : Gate} {r : Request} {requirement : Requirement} {turns : List (Turn σ)} {caller : Principal}

theorem Vouched.username_ne_empty (vouched : Vouched g r requirement turns caller) : caller.username ≠ "" := by
  cases vouched with
  | intro own written answered accepted allowed => exact BearerGate.username_ne_empty written.subject_ne _

/-- **Under one token a caller has one name,** whichever gate vouches. -/
theorem Vouched.username_eq (vouched : Vouched g r requirement turns caller) {σ' : Type} {g' : Gate} {r' : Request}
    {requirement' : Requirement} {turns' : List (Turn σ')} {caller' : Principal}
    (vouched' : Vouched g' r' requirement' turns' caller')
    (same : bearerToken? (r'.header? "authorization") = bearerToken? (r.header? "authorization")) :
    caller'.username = caller.username := by
  cases vouched with
  | @intro raw _ t _ _ _ _ _ _ own written answered accepted allowed =>
    cases vouched' with
    | @intro raw' _ t' _ _ _ _ _ _ own' written' answered' accepted' allowed' =>
      obtain rfl : raw' = raw := Option.some.inj (own'.symm.trans (same.trans own))
      have both := (Token.ofText_eq_ok_iff.2 written').symm.trans (Token.ofText_eq_ok_iff.2 written)
      cases both
      rfl

end Names

/-! ### The text of a profile -/

theorem settled_strings (xs : List String) : (Json.strings xs).Settled := by
  refine .array fun j member => ?_
  obtain ⟨x, -, rfl⟩ := List.mem_map.1 member
  exact .string x

theorem allFinite_strings (xs : List String) : (Json.strings xs).AllFinite := by
  refine .array fun j member => ?_
  obtain ⟨x, -, rfl⟩ := List.mem_map.1 member
  exact .string x

/-- The names of the members of a profile. -/
private def profileNames : List String :=
  ["subject", "username", "email", "name", "givenName", "familyName", "emailVerified", "roles", "expiresAt"]

/-- A profile is a value as a reader gives it. -/
theorem settled_profile (p : Principal) (claims : Members) (expiresAt : String) :
    (profile p claims expiresAt).Settled := by
  have optional : ∀ o : Option String, (Json.stringOrNull o).Settled := by
    rintro (_ | s)
    · exact .null
    · exact .string s
  have nodup : profileNames.Nodup := by decide
  have plain : ∀ name ∈ profileNames, Table.index? name = none := by decide
  refine .object (Json.ofMembers_eq_object nodup plain) fun m member => ?_
  simp only [List.mem_cons, List.not_mem_nil, or_false] at member
  rcases member with rfl | rfl | rfl | rfl | rfl | rfl | rfl | rfl | rfl
  · exact .string _
  · exact .string _
  · exact .string _
  · exact optional _
  · exact optional _
  · exact optional _
  · exact .bool _
  · exact settled_strings _
  · exact .string _

theorem allFinite_profile (p : Principal) (claims : Members) (expiresAt : String) :
    (profile p claims expiresAt).AllFinite := by
  have optional : ∀ o : Option String, (Json.stringOrNull o).AllFinite := by
    rintro (_ | s)
    · exact .null
    · exact .string s
  refine .object fun m member => ?_
  simp only [List.mem_cons, List.not_mem_nil, or_false] at member
  rcases member with rfl | rfl | rfl | rfl | rfl | rfl | rfl | rfl | rfl
  · exact .string _
  · exact .string _
  · exact .string _
  · exact optional _
  · exact optional _
  · exact optional _
  · exact .bool _
  · exact allFinite_strings _
  · exact .string _

/-- **The check that a reader makes of a profile** finds the caller's name in it. -/
theorem userShape_profile {p : Principal} (named : p.username ≠ "") (claims : Members) (expiresAt : String) :
    userShape (profile p claims expiresAt) = some p.username := by
  have username : (profile p claims expiresAt).stringMember? "username" = some p.username := rfl
  have email : (profile p claims expiresAt).stringMember? "email" = some p.email := rfl
  rw [userShape, username, email]
  exact if_neg named

/-! ### Replies in JSON as they arrive -/

/-- **A value that was sent as JSON is read as it was.** -/
theorem readBody?_of_render {t : TransportReply} {j : Json} (settled : j.Settled) (finite : j.AllFinite)
    (typed : t.headers.get? "content-type" = some jsonType) (sent : t.body = Text.Utf8.encode j.render) :
    readBody? t = some j := by
  obtain ⟨c, cs, chars, begins⟩ := Json.begins_renderChars settled finite
  have no_mark : c ≠ '\ufeff' := by
    rintro rfl
    exact absurd begins (by decide)
  have kept : ∀ ds, Text.Utf8.dropMark (c :: ds) = c :: ds := by
    intro ds
    unfold Text.Utf8.dropMark
    split
    · rename_i same
      cases same
      exact absurd rfl no_mark
    · rfl
  have read : Text.Utf8.decodeBody t.body = j.renderChars := by
    rw [sent, Json.render, Text.Utf8.decodeBody, Text.Utf8.decodeText, Text.Utf8.decode_encode, chars, kept, kept]
  have filled : j.renderChars ≠ [] := by
    rw [chars]
    exact List.cons_ne_nil c cs
  have json : Text.occursIn "json".toList jsonType.toList = true := by decide
  have back := Json.parse?_render settled finite
  rw [Json.parse?, Json.render, String.toList_ofList] at back
  rw [readBody?, read, if_neg filled, typed, Option.getD_some, if_pos json, back]

/-- The content type of JSON is a value as it is. -/
theorem isValue_jsonType : Headers.IsValue jsonType where
  first := by
    intro c first
    have head : jsonType.toList.head? = some 'a' := by decide
    rw [head] at first
    cases first
    decide
  last := by
    intro c last
    have tail : jsonType.toList.getLast? = some '8' := by decide
    rw [tail] at last
    cases last
    decide
  chars := by
    have all : jsonType.toList.all Headers.isValueChar = true := by decide
    exact List.all_eq_true.1 all

section Arriving

variable {s : Service} {m : Option Match} {r : Request} {id : String}

/-- **An answer in JSON arrives** with its status, its content type and its text. -/
theorem exists_transportReply (deliverable : r.Deliverable) (id_fine : isReplyHeader ("x-request-id", id) = true)
    (status : Nat) (body : Json) :
    ∃ t, Deployment.transportReply (jsonReplyOf (s.outlet m r id) status body) = some t ∧ t.status = status ∧
      t.headers.get? "content-type" = some jsonType ∧
      t.body = Text.Utf8.encode (jsonReplyOf (s.outlet m r id) status body).text := by
  have fine : ∀ h ∈ (s.outlet m r id).headers ++ [("content-type", jsonType)],
      Headers.isName h.1 = true ∧ (Headers.value? h.2).isSome = true := by
    intro h member
    rcases List.mem_append.1 member with own | typed
    · have names : ∀ name ∈ outletNames, Headers.isName name = true := by decide
      exact ⟨names _ (mem_outletNames h own),
        isSome_value?_of_isReplyHeader (isReplyHeader_outlet deliverable id_fine h own)⟩
    · rw [List.mem_singleton.1 typed]
      exact ⟨by decide, by rw [Headers.value?_of_isValue isValue_jsonType]; rfl⟩
  have other : ∀ h ∈ (s.outlet m r id).headers, Text.lower "content-type" ≠ Text.lower h.1 := by
    have names : ∀ name ∈ outletNames, Text.lower "content-type" ≠ Text.lower name := by decide
    exact fun h own => names _ (mem_outletNames h own)
  obtain ⟨headers, made⟩ := Headers.exists_ofPairs? fine
  refine ⟨⟨status, headers, _⟩, ?_, rfl, Headers.get?_ofPairs?_concat made isValue_jsonType (by decide) other, rfl⟩
  rw [Deployment.transportReply]
  change (Headers.ofPairs? ((s.outlet m r id).headers ++ [("content-type", jsonType)])).map _ = _
  rw [made]
  rfl

end Arriving

/-! ### Asking for a profile -/

/-- What a request for the caller's profile is routed to. -/
def profileMatch : Match := ⟨.me, []⟩

/-- **A request for the caller's profile.** -/
structure Request.AsksForProfile (r : Request) : Prop where
  gets : r.method = "GET"
  routed : routed? ServiceName.userService.endpoints r = some (some profileMatch)

/-- What the handler comes to: a profile that names the instant of expiry, or nothing at no instant. -/
def profileResult (p : Principal) (claims : Members) : Except Fault Answer :=
  match p.expiresAt.text? with
  | some expiresAt => .ok (.ofStatus 200 (profile p claims expiresAt))
  | none => .error (.crash Instant.invalidMessage)

/-- The handler says who the caller is, and does nothing else. -/
theorem within_meHandler_tells {i : Inbound} {p : Principal} (known : i.principalOf = .ok p) (u : Service) :
    Task.Within (Contract.idle ServiceState fun _ _ => True) (fun result => result = profileResult p (rawClaims i))
      (meHandler u i).run := by
  have named : (meHandler u i).run = Task.log (.texts .info "GET /users/me" [("username", p.username)]) >>= fun _ =>
      pure (profileResult p (rawClaims i)) := by
    unfold meHandler caller profileResult
    rw [known]
    dsimp only
    rw [pure_bind, Handling.log, Handling.run_bind_ofTask]
    cases p.expiresAt.text? <;> rfl
  rw [named]
  exact .bind (.log (liberal_idle _) _) fun _ _ => .pure rfl

/-- **How a request for the caller's profile ends.** -/
inductive Introducing (u : Service) (r : Request) (turns : List (Turn ServiceState)) (own : Reply) : Prop
  /-- The gate has turned it away. -/
  | refused {cause : Rejection} (refusal : IsRefusal u (some profileMatch) r cause own)
  /-- The token expires at no instant. -/
  | timeless {caller : Principal} (vouched : Vouched u.gate r .anyone turns caller)
      (timeless : caller.expiresAt.text? = none) (status : own.status = 500)
  | told {caller : Principal} {claims : Members} {expiresAt id : String}
      (vouched : Vouched u.gate r .anyone turns caller) (shown : caller.expiresAt.text? = some expiresAt)
      (id_fine : isReplyHeader ("x-request-id", id) = true)
      (reply : own = jsonReplyOf (u.outlet (some profileMatch) r id) 200 (profile caller claims expiresAt))

section Way

variable {u : Service} {r : Request} {turns : List (Turn ServiceState)} {own : Reply}

/-- **Every request for the caller's profile ends so.** -/
theorem introducing_of_ending {arrival last : ServiceState} (asks : r.AsksForProfile)
    (ending : Ending u (some profileMatch) r arrival turns last own) (real : ∀ t ∈ turns, Real t.question t.answer)
    (deliverable : r.Deliverable) : Introducing u r turns own := by
  cases ending with
  | refused refusal unchanging uncalled => exact .refused refusal
  | @handled caller ruling front ran back st v result parts vouched known token numbered id_fine entry uncalled path
      sent =>
    have real_back : ∀ t ∈ back, Real t.question t.answer := fun t member => real t (by
      rw [parts]
      exact List.mem_append_right _ (List.mem_append_right _ member))
    have vouched_whole : Vouched u.gate r .anyone turns caller :=
      vouched.mono ⟨[], ran ++ back, by rw [parts, List.nil_append]⟩
    rcases handled_cases path with ⟨f, faulty, -⟩ | ⟨body, answer, read, way, rfl⟩
    · rw [readBody_of_gets asks.gets] at faulty
      cases faulty
    have here : (inboundOf profileMatch r ruling.context body).principalOf = .ok caller := known _ rfl
    obtain ⟨-, -, rfl⟩ := idle_path (within_meHandler_tells here u) way
    cases shown : caller.expiresAt.text? with
    | some expiresAt =>
      simp only [profileResult, shown] at sent
      exact .told vouched_whole shown id_fine (reply_of_answered deliverable id_fine (by decide) sent)
    | none =>
      simp only [profileResult, shown] at sent
      exact .timeless vouched_whole shown (status_of_fault deliverable id_fine rfl (by decide) real_back sent)

/-- **A success is a profile with the caller's name in it,** as whoever has asked for it reads it. -/
theorem Introducing.gives (introducing : Introducing u r turns own) (gets : r.method = "GET")
    (deliverable : r.Deliverable) (success : isSuccess own.status = true) :
    ∃ caller sent, Vouched u.gate r .anyone turns caller ∧ Deployment.transportReply own = some sent ∧
      CallEnd.Gives { reply := some sent } userShape caller.username := by
  cases introducing with
  | @refused cause refusal =>
    have failing : ∀ status ∈ [401, 403, 503], isSuccess status = false := by decide
    have failed := failing _ refusal.status_mem
    rw [success] at failed
    cases failed
  | timeless vouched timeless status =>
    rw [status] at success
    cases success
  | @told caller claims expiresAt id vouched shown id_fine reply =>
    obtain ⟨sent, arrives, status, typed, text⟩ :=
      exists_transportReply (s := u) (m := some profileMatch) deliverable id_fine 200 (profile caller claims expiresAt)
    rw [jsonReplyOf, shows_of_gets gets] at text
    have read := readBody?_of_render (settled_profile caller claims expiresAt) (allFinite_profile caller claims expiresAt)
      typed text
    subst reply
    exact ⟨caller, sent, vouched, arrives, sent, _, rfl, read, by rw [status]; rfl,
      userShape_profile vouched.username_ne_empty claims expiresAt⟩

end Way

/-- A request for the caller's profile in a run of the user service. -/
theorem Site.introducing {u : Service} {stores : ServiceState} {events : List Event}
    (real : ∀ e ∈ events, e.Gives Real) {n : Nat} {w : Visit} {last : ServiceState} {reply : Option Reply}
    (there : (after u ServiceName.userService.endpoints { state := stores } events).visits[n]? = some w)
    (asks : w.request.AsksForProfile) (deliverable : w.request.Deliverable)
    (ended : w.standing = .done last reply) :
    ∃ own, reply = some own ∧ Introducing u w.request w.turns own := by
  obtain ⟨travels, heard, -⟩ := visit_of_after real there
  have plain : w.request.method ≠ "OPTIONS" := by
    rw [asks.gets]
    decide
  obtain ⟨own, rfl, ending⟩ := Visit.ending travels asks.routed plain rfl ended heard deliverable
  exact ⟨own, rfl, introducing_of_ending asks ending heard deliverable⟩

/-! ### Calls for a profile -/

/-- **A reply of the user service to a call for the caller's profile:** in some run of that service the request that
the call sends asks for a profile, and ends with that reply. -/
inductive ProfileReply (u : Service) (call : OutboundCall) (sent : TransportReply) : Prop
  | intro {stores : ServiceState} {events : List Site.Event} {n : Nat} {w : Visit} {last : ServiceState} {own : Reply}
      (real : ∀ e ∈ events, e.Gives Real)
      (there : (Site.after u ServiceName.userService.endpoints { state := stores } events).visits[n]? = some w)
      (requested : Deployment.requestOf call = .ok w.request) (asks : w.request.AsksForProfile)
      (ended : w.standing = .done last (some own)) (replied : Deployment.transportReply own = some sent) :
    ProfileReply u call sent

/-- **What is sent of a request:** its method and its target as they are sent, and without a body the headers that it
has. -/
structure SentAs (r r' : Request) : Prop where
  method : sentMethod? r.method = some r'.method
  target : sentTarget? r.target = some r'.target
  headers : r.body = none → r'.headers = r.headers

theorem sentAs_of_sent {r r' : Request} (sent : r.sent = .ok r') : SentAs r r' := by
  unfold Request.sent at sent
  split at sent
  · cases sent
  · cases sent
  · rename_i method target known there
    cases sent
    unfold Request.withLength
    dsimp only
    split
    · exact ⟨known, there, fun _ => rfl⟩
    · rename_i filled
      refine ⟨known, there, fun bodyless => ?_⟩
      rw [bodyless] at filled
      exact absurd (.inl rfl) filled

/-- **Below a base at its root a profile is called for under its own path.** -/
theorem target_of_root {base url : Url} {host : List Char} {segments : List String} (web : Web base host segments)
    (unasked : base.query = none) (unmarked : base.fragment = none) (root : directory segments = [])
    (joined : joinUrl? base userRequest.path = some url) : targetOf url = userRequest.path := by
  obtain ⟨_, inside, front, query, fragment, -, inside_eq, cut, -, -, address⟩ :=
    joinUrl?_eq web "users/me".toList
  obtain rfl : inside = [] := (inside_eq unasked unmarked).trans root
  have clean : cleanedTail "users/me".toList = "users/me".toList := by decide
  rw [clean] at cut
  obtain rfl : fragment = none := by
    cases fragment with
    | none => rfl
    | some marked =>
      have member : '#' ∈ "users/me".toList := by
        rw [cut]
        exact List.mem_append_right _ List.mem_cons_self
      exact absurd member (by decide)
  obtain rfl : query = none := by
    cases query with
    | none => rfl
    | some asked =>
      have member : '?' ∈ "users/me".toList := by
        rw [cut]
        exact List.mem_append_left _ (List.mem_append_right _ List.mem_cons_self)
      exact absurd member (by decide)
  obtain rfl : "users/me".toList = front := by
    rw [cut]
    simp [tailText]
  change joinUrl? base userRequest.path = _ at address
  rw [joined] at address
  obtain ⟨h, -, rfl⟩ := Option.map_eq_some_iff.1 address.symm
  have path : extendPath base.scheme [] (apiWord ++ '/' :: "users/me".toList) = ["api", "users", "me"] := by
    rcases web.scheme with scheme | scheme <;> rw [scheme] <;> decide
  rw [path]
  rfl

/-- **A call for a profile asks for it,** where its base is the root of the user service. -/
theorem asksForProfile_of_root {s : Service} {context : RequestContext} {call : OutboundCall} {r : Request}
    {text : String} {base : Url} (prepared : Prepared s context userRequest call)
    (resolved : s.registry.resolve? userRequest.service = some base) (read : Url.parse? text none = some base)
    (web : IsWeb base.scheme) (unasked : base.query = none) (unmarked : base.fragment = none)
    (root : directory base.segmentsOf = []) (requested : Deployment.requestOf call = .ok r) : r.AsksForProfile := by
  obtain ⟨log, prepared⟩ := prepared
  obtain ⟨base', plain, resolved', forwarded, joined, method, -⟩ := exists_plain_of_prepareCall prepared
  obtain ⟨url, sent_method, -⟩ := forward_keeps forwarded
  obtain rfl : base = base' := Option.some.inj (resolved.symm.trans resolved')
  obtain ⟨host, segments, known, -⟩ := web_of_parse? read web
  rw [segmentsOf, known.path] at root
  rw [← url] at joined
  have target := target_of_root known unasked unmarked root joined
  have gets : call.method = "GET" := sent_method.trans (method.trans (by decide))
  have sent := sentAs_of_sent requested
  have sentMethod : sentMethod? "GET" = some "GET" := by decide
  have sentTarget : sentTarget? userRequest.path = some userRequest.path := by decide +kernel
  have method_eq : r.method = "GET" := by
    have known := sent.method
    dsimp only at known
    rw [gets, sentMethod] at known
    exact (Option.some.inj known).symm
  have target_eq : r.target = userRequest.path := by
    have there := sent.target
    dsimp only at there
    rw [target, sentTarget] at there
    exact (Option.some.inj there).symm
  refine ⟨method_eq, ?_⟩
  rw [routed?, method_eq, target_eq]
  decide +kernel

/-- A value that can be sent still can without the blanks at its ends. -/
theorem isReplyHeader_of_value? {name value v : String} (fine : isReplyHeader (name, value) = true)
    (read : Headers.value? value = some v) : isReplyHeader (name, v) = true := by
  simp only [Headers.value?] at read
  split at read
  · cases read
    refine List.all_eq_true.2 fun c member => ?_
    rw [String.toList_ofList] at member
    exact List.all_eq_true.1 fine c (Text.mem_of_mem_trimChars member)
  · cases read

/-- **How a call for a profile arrives** that was prepared for a caller with a token. -/
structure Arrival (t : String) (r : Request) : Prop where
  token : bearerToken? (r.header? "authorization") = some t
  deliverable : r.Deliverable

/-- A header that stands alone under its name is found under it. -/
theorem header?_of_filter {r : Request} {name value : String}
    (only : r.headers.filter (fun e => Text.lower e.1 = name) = [(name, value)]) : r.header? name = some value := by
  have found : r.headers.reverse.find? (fun e => Text.lower e.1 = name) = some (name, value) := by
    rw [← List.head?_filter, List.filter_reverse, only]
    rfl
  rw [Request.header?, found, Option.map_some]

/-- **A call for a profile arrives with the caller's token,** and can be answered. -/
theorem arrival_of_prepared {s : Service} {context : RequestContext} {call : OutboundCall} {r r' : Request}
    {t : String} (prepared : Prepared s context userRequest call) (held : context.token = some t)
    (fine : isReplyHeader ("x-request-id", context.requestId) = true) (deliverable : r.Deliverable)
    (delivered : ∀ h ∈ r.header? "authorization", Delivered h)
    (own : bearerToken? (r.header? "authorization") = some t) (requested : Deployment.requestOf call = .ok r') :
    Arrival t r' := by
  obtain ⟨token, header, there, suffix⟩ := bearerToken?_eq_some own
  have found : bearerToken? (some header) = some t := by
    rw [← there]
    exact own
  have bears := bears_of_prepared prepared held (delivered header there) found
  obtain ⟨plain, rfl, -, bodyless, -, dressed⟩ := sealed_of_prepared prepared held (delivered header there) found
  have headers : r'.headers = (plain.sealed t).headers.entries := (sentAs_of_sent requested).headers bodyless
  refine ⟨?_, ?_⟩
  · rw [OutboundCall.Bears, ← headers] at bears
    rw [header?_of_filter bears]
    exact bearerToken?_bearerHeader token
  · obtain ⟨v, read, same⟩ := exists_callHeaders? fine
    have entries : plain.headers = ⟨[("accept", "application/json"), ("x-request-id", v)]⟩ :=
      Option.some.inj ((dressed rfl).symm.trans same)
    have sealed_entries : r'.headers =
        [("accept", "application/json"), ("x-request-id", v), ("authorization", bearerHeader t)] := by
      rw [headers, OutboundCall.sealed, entries]
      rfl
    have bearer : isReplyHeader ("authorization", bearerHeader t) = true := by
      have sendable : isReplyHeader ("authorization", header) = true := by
        obtain ⟨h, member, rfl⟩ := Option.map_eq_some_iff.1 there
        exact deliverable h (List.mem_reverse.1 (List.mem_of_find?_eq_some member))
      refine List.all_eq_true.2 fun c member => ?_
      rw [toList_bearerHeader] at member
      rcases List.mem_append.1 member with scheme | rest
      · have of_scheme : "Bearer".toList.all isReplyChar = true := by decide
        exact List.all_eq_true.1 of_scheme c scheme
      · rcases List.mem_cons.1 rest with rfl | of_token
        · decide
        · exact List.all_eq_true.1 sendable c (suffix.subset of_token)
    intro h member
    rw [sealed_entries] at member
    simp only [List.mem_cons, List.not_mem_nil, or_false] at member
    rcases member with rfl | rfl | rfl
    · decide
    · exact isReplyHeader_of_value? fine read
    · exact bearer

end BearerGate
