import BearerGate.Proofs.Service.Address
import BearerGate.Proofs.Service.Call
import BearerGate.Service.Routes.Gateway

/-!
# Where a relayed request can lead

The gateway reads the first segment of a target off its text, and the address of the call is made of the same text by
the rules of addresses.  The two readers do not see the same segments: to the second one a backslash is a slash too,
tabs and line ends are not there, and dots lead up.  A target **stays inside** its first segment if both see that
segment and what follows never leads up above it (`StaysInside`).  Then the call goes to a path below that segment
(`relay_confined`); another target can lead to any path of the service (`relay_leaves_segment`).
-/

namespace BearerGate

open Url

/-! ### The segments that count -/

/-- The segments that a reader of addresses sees in the text of a path. -/
def segmentsSeen (text : String) : List (List Char) :=
  Text.piecesBy (isSlash true) (((cleaned text).takeWhile (· ≠ '#')).takeWhile (· ≠ '?'))

/-- **A target stays inside its first segment:** it has that segment also as an address, and what follows never leads
up above it. -/
def StaysInside (target : String) : Prop :=
  ∃ way, segmentsSeen target = [] :: apiWord :: (segmentOf target).toList :: way ∧
    isSingleDot (segmentOf target).toList = false ∧ isDoubleDot (segmentOf target).toList = false ∧ StaysBelow 0 way

/-- What is seen in a target is what its address is made of. -/
theorem segmentsSeen_eq {rest front : List Char} {query fragment : Option (List Char)}
    (cut : cleanedTail rest = (front ++ tailText '?' query) ++ tailText '#' fragment)
    (no_fragment : '#' ∉ front ++ tailText '?' query) (no_query : '?' ∉ front) :
    segmentsSeen (String.ofList (apiStart ++ rest)) = [] :: apiWord :: Text.piecesBy (isSlash true) front := by
  have visible : ∀ c ∈ apiStart, 0x20 < c.toNat := by
    have all : apiStart.all (fun c => decide (0x20 < c.toNat)) = true := by decide
    exact fun c member => of_decide_eq_true (List.all_eq_true.1 all c member)
  have other : ∀ {opening : Char} {cs : List Char}, apiStart.contains opening = false → opening ∉ cs →
      opening ∉ apiStart ++ cs := by
    intro opening cs outside absent member
    rcases List.mem_append.1 member with first | later
    · rw [List.contains_iff_mem.2 first] at outside
      cases outside
    · exact absent later
  have clean : cleaned (String.ofList (apiStart ++ rest)) =
      (apiStart ++ (front ++ tailText '?' query)) ++ tailText '#' fragment := by
    have kept : cleaned (String.ofList (apiStart ++ rest)) = apiStart ++ cleanedTail rest :=
      cleaned_append (List.cons_ne_nil _ _) visible rest
    rw [kept, cut, List.append_assoc apiStart]
  have path : ((cleaned (String.ofList (apiStart ++ rest))).takeWhile (· ≠ '#')).takeWhile (· ≠ '?') =
      apiStart ++ front := by
    rw [clean, takeWhile_tail (other (by decide) no_fragment), ← List.append_assoc,
      takeWhile_tail (other (by decide) no_query)]
  have slash : isSlash true '/' = true := rfl
  have nothing : ∀ c ∈ ([] : List Char), isSlash true c = false := by
    intro c member
    cases member
  have first : Text.piecesBy (isSlash true) (apiStart ++ front) =
      [] :: Text.piecesBy (isSlash true) (apiWord ++ '/' :: front) :=
    Text.piecesBy_append_cons nothing slash (apiWord ++ '/' :: front)
  rw [segmentsSeen, path, first, piecesBy_apiWord]

/-- **The path of a call stays below the segment** that its target stays inside. -/
theorem path_of_staysInside {base : Url} {host : List Char} {segments : List String} (web : Web base host segments)
    (unasked : base.query = none) (unmarked : base.fragment = none) {rest : List Char}
    (inside : StaysInside (String.ofList (apiStart ++ rest))) {u : Url}
    (joined : joinUrl? base (String.ofList (apiStart ++ rest)) = some u) :
    ∃ more, u.path = .segments (directory segments ++ "api" ::
      String.ofList (Percent.encode Percent.inPath (segmentOf (String.ofList (apiStart ++ rest))).toList) :: more) := by
  obtain ⟨root, dir, front, query, fragment, -, dir_eq, cut, no_fragment, no_query, address⟩ := joinUrl?_eq web rest
  obtain rfl := dir_eq unasked unmarked
  obtain ⟨way, seen, single, double, stays⟩ := inside
  rw [segmentsSeen_eq cut no_fragment no_query] at seen
  have pieces := (List.cons.inj (List.cons.inj seen).2).2
  rw [address] at joined
  obtain ⟨h, -, rfl⟩ := Option.map_eq_some_iff.1 joined
  have not_file := web.scheme.not_file
  generalize (segmentOf (String.ofList (apiStart ++ rest))).toList = segment at pieces single double ⊢
  have here : StaysBelow ([] : List String).length way := stays
  obtain ⟨more, pushed⟩ := pushSegments_below not_file
    (directory segments ++ ["api", String.ofList (Percent.encode Percent.inPath segment)]) here
  refine ⟨more, ?_⟩
  have word : String.ofList (Percent.encode Percent.inPath apiWord) = "api" := by decide
  change UrlPath.segments (extendPath base.scheme (directory segments) (apiWord ++ '/' :: front)) = _
  rw [extendPath, web.scheme.special, piecesBy_apiWord, pieces,
    pushSegments_cons_of_not_dots not_file (by decide) (by decide),
    pushSegments_cons_of_not_dots not_file single double, word]
  rw [List.append_nil] at pushed
  rw [List.append_assoc]
  exact congrArg UrlPath.segments (pushed.trans (List.append_assoc _ _ _))

/-! ### Relaying -/

/-- **A relayed request is confined** to what lies below its segment, on a base of the web without query and
fragment, if its target stays inside that segment. -/
theorem relay_confined {s : Service} {i : Inbound} {target : ServiceName} {base : Url} {text : String}
    (mapped : Table.get? s.config.gatewayRoutes (segmentOf i.request.target) = some target)
    (resolved : s.registry.resolve? target.name = some base) (read : Url.parse? text none = some base)
    (web : IsWeb base.scheme) (unasked : base.query = none) (unmarked : base.fragment = none)
    (below_api : "/api/".toList <+: i.request.target.toList) (inside : StaysInside i.request.target)
    {st st' : ServiceState} {turns : List (Turn ServiceState)} {result : Except Fault Answer}
    (path : ((relayHandler s i).run st).Reaches turns (.done st' result)) :
    ∀ made ∈ callsOf turns, ∃ more, made.1.url.path = .segments (directory base.segmentsOf ++ "api" ::
      String.ofList (Percent.encode Percent.inPath (segmentOf i.request.target).toList) :: more) := by
  intro made member
  obtain ⟨host, segments, known, -⟩ := web_of_parse? read web
  obtain ⟨rest, target_chars⟩ := below_api
  have target_eq : i.request.target = String.ofList (apiStart ++ rest) := by
    rw [← String.ofList_toList (s := i.request.target), ← target_chars]
    rfl
  rcases relay_ends mapped path with ⟨fault, -, none_made, -⟩ | ⟨call, log, ending, prepared, one, -⟩
  · rw [none_made] at member
    cases member
  rw [one] at member
  obtain rfl := List.mem_singleton.1 member
  obtain ⟨base', resolved', joined, -, -⟩ := prepareCall_eq_ok prepared
  have same : base = base' := Option.some.inj (resolved.symm.trans resolved')
  rw [← same] at joined
  change joinUrl? base i.request.target = some call.url at joined
  have segments_eq : base.segmentsOf = segments := by rw [segmentsOf, known.path]
  rw [segments_eq]
  rw [target_eq] at joined inside ⊢
  exact path_of_staysInside known unasked unmarked inside joined

/-! ### Two requests -/

/-- A gateway in front of one service, which has one address. -/
def gatewayTo (base : Url) : Service where
  config :=
    { environment := "test", serviceName := .gateway, host := "", port := 0, logLevel := "info"
      corsAllowedOrigins := [], downstreamTimeoutMs := 1000, serviceUrls := []
      gatewayRoutes := [("users", .userService)]
      auth :=
        { issuer := "i", audience := "a", jwksUri := "", rolesClaimPath := "", algorithms := [.rs256]
          clockToleranceSec := 0, jwksCacheTtlMs := 0, jwksRefreshCooldownMs := 0, jwksFetchTimeoutMs := 0 } }
  registry := ⟨[("user-service", base)]⟩
  gate := { validator := { issuer := "i", audience := "a" }, check := fun _ _ _ _ => false, rolesSetting := "" }

/-- A request without a token, as a handler is given it. -/
def askingFor (target : String) : Inbound where
  request := { method := "GET", target, headers := [], body := none }
  parameters := []
  context := { requestId := "r" }
  body := .null

/-- What is asked for below a segment that is mapped is called at its address. -/
theorem exists_call {base url : Url} {target : String} (users : segmentOf target = "users")
    (joined : joinUrl? base target = some url) : ∃ turns st' result call ending,
      ((relayHandler (gatewayTo base) (askingFor target)).run {}).Reaches turns (.done st' result) ∧
        callsOf turns = [(call, ending)] ∧ call.url = url := by
  have mapped : Table.get? (gatewayTo base).config.gatewayRoutes (segmentOf (askingFor target).request.target) =
      some .userService := by
    change Table.get? [("users", ServiceName.userService)] (segmentOf target) = _
    rw [users]
    rfl
  have bearer : ∀ token, (askingFor target).context.bearer? = some token →
      (Headers.value? ("Bearer " ++ token)).isSome = true := fun token held => by cases held
  have dressed : callHeaders? (askingFor target).context [] =
      some ⟨[("accept", "application/json"), ("x-request-id", "r")]⟩ := by
    change callHeaders? { requestId := "r" } [] = _
    decide
  obtain ⟨call, log, prepared⟩ : ∃ call log, prepareCall (gatewayTo base).registry (askingFor target).context
      (relayRequest (askingFor target) .userService) = .ok (call, log) := exists_prepareCall rfl dressed bearer joined
  obtain ⟨turns, st', result, ending, path, made⟩ := exists_relay mapped prepared {}
  obtain ⟨base', resolved, joined', -, -⟩ := prepareCall_eq_ok prepared
  obtain rfl : base = base' := Option.some.inj resolved
  exact ⟨turns, st', result, call, ending, path, made, Option.some.inj (joined'.symm.trans joined)⟩

private def usersAddress (segments : List String) : Url where
  scheme := "http"
  host := some "users.test"
  path := .segments segments

/-- A request for what lies below its segment is called there. -/
theorem relay_confined_below : ∃ turns st' result call ending,
    ((relayHandler (gatewayTo (usersAddress ["v1"])) (askingFor "/api/users/a/../me")).run {}).Reaches turns
      (.done st' result) ∧ callsOf turns = [(call, ending)] ∧
    ∃ more, call.url.path = .segments ("v1" :: "api" :: "users" :: more) := by
  have joined : joinUrl? (usersAddress ["v1"]) "/api/users/a/../me" =
      some (usersAddress ["v1", "api", "users", "me"]) := by decide +kernel
  have read : Url.parse? "http://users.test/v1" none = some (usersAddress ["v1"]) := by decide +kernel
  obtain ⟨turns, st', result, call, ending, path, made, -⟩ := exists_call (by decide) joined
  have mapped : Table.get? (gatewayTo (usersAddress ["v1"])).config.gatewayRoutes
      (segmentOf (askingFor "/api/users/a/../me").request.target) = some .userService := by decide
  have inside : StaysInside "/api/users/a/../me" :=
    ⟨[['a'], ['.', '.'], ['m', 'e']], by decide, by decide, by decide, by decide⟩
  have confined := relay_confined mapped rfl read (.inl rfl) rfl rfl (by decide) inside path (call, ending)
    (by rw [made]; exact List.mem_singleton_self _)
  exact ⟨turns, st', result, call, ending, path, made, confined⟩

/-- **Dots lead out of the segment,** up to the paths that the service keeps for others. -/
theorem relay_leaves_segment : ∃ turns st' result call ending,
    ((relayHandler (gatewayTo (usersAddress [""])) (askingFor "/api/users/../../metrics")).run {}).Reaches turns
      (.done st' result) ∧ callsOf turns = [(call, ending)] ∧
    segmentOf "/api/users/../../metrics" = "users" ∧ Url.parse? "http://users.test" none = some (usersAddress [""]) ∧
    call.url.path = .segments ["metrics"] := by
  have joined : joinUrl? (usersAddress [""]) "/api/users/../../metrics" = some (usersAddress ["metrics"]) := by
    decide +kernel
  obtain ⟨turns, st', result, call, ending, path, made, url⟩ := exists_call (by decide) joined
  refine ⟨turns, st', result, call, ending, path, made, by decide, by decide +kernel, ?_⟩
  rw [url]
  rfl

end BearerGate
