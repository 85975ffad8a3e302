import BearerGate.Proofs.Gate.Bearer
import BearerGate.Proofs.Http.Headers
import BearerGate.Service.Client
import Mathlib.Data.List.Forall2

/-!
# The token on its way from service to service

`forward` puts the caller's token into a call.  `sealed` is the call that it makes of a call and a token:
the same call with one `Authorization` header, which carries that token.  Sealing twice is sealing once,
and what is read from the header of a sealed call is the token it was sealed with; so along a chain of
services, each of which reads the header of the call it was reached by, the token never changes.
-/

namespace BearerGate

/-- **Values as they are delivered** by the transport of requests: no blank or tab at the ends, no null
character, no line end, no character above U+00FF. -/
structure Delivered (h : String) : Prop where
  first : ∀ c ∈ h.toList.head?, c ≠ ' ' ∧ c ≠ '\t'
  last : ∀ c ∈ h.toList.getLast?, c ≠ ' ' ∧ c ≠ '\t'
  chars : ∀ c ∈ h.toList, c ≠ '\x00' ∧ c ≠ '\r' ∧ c ≠ '\n' ∧ c.toNat ≤ 255

/-- **A call with a token.** -/
def OutboundCall.sealed (call : OutboundCall) (t : String) : OutboundCall :=
  { call with headers := call.headers.put "authorization" (bearerHeader t) }

/-- A call without a token. -/
def OutboundCall.bare (call : OutboundCall) : OutboundCall :=
  { call with headers := call.headers.delete "authorization" }

/-! ### Tokens of delivered headers -/

/-- The header of a token that was delivered can be written, and stays as it is written. -/
theorem isValue_bearerHeader {h t : String} (delivered : Delivered h)
    (found : bearerToken? (some h) = some t) : Headers.IsValue (bearerHeader t) := by
  obtain ⟨token, h', same, before, parts⟩ := bearerToken?_eq_some found
  cases same
  cases t_chars : t.toList.getLast? with
  | none => exact absurd (List.getLast?_eq_none_iff.1 t_chars) token.ne_nil
  | some last =>
    have h_last : h.toList.getLast? = some last := by
      rw [← parts, List.getLast?_append, t_chars]
      rfl
    have last_member : last ∈ h.toList := List.mem_of_getLast? h_last
    have no_blank := delivered.last last h_last
    have in_header := delivered.chars last last_member
    refine ⟨?_, ?_, ?_⟩
    · rw [toList_bearerHeader]
      intro c first
      obtain rfl : 'B' = c := by simpa using first
      decide
    · rw [toList_bearerHeader]
      intro c c_last
      rw [List.getLast?_append, List.getLast?_cons, t_chars] at c_last
      obtain rfl : last = c := by simpa using c_last
      simp [Headers.isEdgeBlank, no_blank, in_header]
    · rw [toList_bearerHeader]
      intro c member
      rcases List.mem_append.1 member with scheme | rest
      · have of_scheme : "Bearer".toList.all Headers.isValueChar = true := by decide
        exact List.all_eq_true.1 of_scheme c scheme
      · rcases List.mem_cons.1 rest with rfl | of_token
        · decide
        · have in_h : c ∈ h.toList := by
            rw [← parts]
            exact List.mem_append_right _ of_token
          have ok := delivered.chars c in_h
          simp [Headers.isValueChar, ok]

/-- A header that carries a delivered token is delivered as it is. -/
theorem delivered_bearerHeader {h t : String} (delivered : Delivered h)
    (found : bearerToken? (some h) = some t) : Delivered (bearerHeader t) := by
  have value := isValue_bearerHeader delivered found
  have no_edge : ∀ {c : Char}, Headers.isEdgeBlank c = false → c ≠ ' ' ∧ c ≠ '\t' := by
    intro c edge
    constructor <;> rintro rfl <;> exact absurd edge (by decide)
  refine ⟨fun c first => no_edge (value.first c first), fun c last => no_edge (value.last c last), ?_⟩
  intro c member
  have ok := value.chars c member
  simp only [Headers.isValueChar, Bool.and_eq_true, decide_eq_true_eq] at ok
  exact ⟨ok.1.1.1, ok.1.2, ok.1.1.2, ok.2⟩

/-! ### What `forward` makes of a call -/

theorem forward_of_token {context : RequestContext} {t : String} (there : context.token = some t)
    (ne : t ≠ "") (value : Headers.IsValue (bearerHeader t)) (call : OutboundCall) :
    forward context call = some (call.sealed t, []) := by
  have bearer : context.bearer? = some t := by simp [RequestContext.bearer?, there, ne]
  have name : Headers.isName "authorization" = true := by decide
  have set : (call.headers.delete "authorization").set? "authorization" (bearerHeader t) =
      some ((call.headers.delete "authorization").put "authorization" (bearerHeader t)) := by
    rw [Headers.set?, if_pos name, Headers.value?_of_isValue value]
    rfl
  simp only [forward, bearer]
  rw [← bearerHeader, set]
  simp [OutboundCall.sealed, Headers.put, Headers.delete]

theorem forward_of_no_token {context : RequestContext} (absent : context.token = none)
    (call : OutboundCall) :
    forward context call = some (call.bare, [unauthenticatedLog context call]) := by
  simp [forward, RequestContext.bearer?, absent, OutboundCall.bare]

/-- Sealing a call again with the same token changes nothing. -/
theorem sealed_sealed (call : OutboundCall) (t : String) : (call.sealed t).sealed t = call.sealed t := by
  simp [OutboundCall.sealed, Headers.put, Headers.delete]

theorem bare_bare (call : OutboundCall) : call.bare.bare = call.bare := by
  simp [OutboundCall.bare, Headers.delete]

/-- **What is sent in place of a call** on behalf of a caller with a token, or with none: the same call,
with that token in its one `Authorization` header, or without such a header. -/
structure OutboundCall.SentFor (sent call : OutboundCall) (token : Option String) : Prop where
  url : sent.url = call.url
  method : sent.method = call.method
  body : sent.body = call.body
  others : sent.headers.entries.filter (fun e => Text.lower e.1 ≠ "authorization") =
    call.headers.entries.filter (fun e => Text.lower e.1 ≠ "authorization")
  authorization : sent.headers.entries.filter (fun e => Text.lower e.1 = "authorization") =
    (token.map fun t => ("authorization", "Bearer " ++ t)).toList
  found : ∀ name, Text.lower name = "authorization" →
    sent.headers.get? name = token.map ("Bearer " ++ ·)

/-- The entries of a list of lowered names under one name are those that are spelled so. -/
private theorem filter_lowered {h : Headers} (lowered : h.Lowered) (p : String → Bool) :
    h.entries.filter (fun e => p (Text.lower e.1)) = h.entries.filter (fun e => p e.1) := by
  apply List.filter_congr
  intro e member
  rw [lowered e member]

private theorem lower_authorization : Text.lower "authorization" = "authorization" := by decide

theorem sentFor_sealed {call : OutboundCall} (lowered : call.headers.Lowered) (t : String) :
    (call.sealed t).SentFor call (some t) where
  url := rfl
  method := rfl
  body := rfl
  others := by
    have lowered_sealed : (call.sealed t).headers.Lowered := Headers.lowered_put lowered _ _
    rw [filter_lowered lowered_sealed (· ≠ "authorization"), filter_lowered lowered (· ≠ "authorization")]
    simp [OutboundCall.sealed, Headers.put, Headers.delete, List.filter_append, lower_authorization]
  authorization := by
    have lowered_sealed : (call.sealed t).headers.Lowered := Headers.lowered_put lowered _ _
    rw [filter_lowered lowered_sealed (· = "authorization")]
    simp +contextual [OutboundCall.sealed, Headers.put, Headers.delete, List.filter_append,
      lower_authorization, bearerHeader]
  found := by
    intro name same
    exact Headers.get?_put_self _ _ same

theorem sentFor_bare {call : OutboundCall} (lowered : call.headers.Lowered) :
    call.bare.SentFor call none where
  url := rfl
  method := rfl
  body := rfl
  others := by
    have lowered_bare : call.bare.headers.Lowered := Headers.lowered_delete lowered _
    rw [filter_lowered lowered_bare (· ≠ "authorization"), filter_lowered lowered (· ≠ "authorization")]
    simp [OutboundCall.bare, Headers.delete, lower_authorization]
  authorization := by
    have lowered_bare : call.bare.headers.Lowered := Headers.lowered_delete lowered _
    rw [filter_lowered lowered_bare (· = "authorization")]
    simp [OutboundCall.bare, Headers.delete, lower_authorization]
  found := by
    intro name same
    exact Headers.get?_delete_self _ same

/-! ### Many times, and from service to service -/

/-- The call after it was forwarded a number of times. -/
def forwardTimes (context : RequestContext) : Nat → OutboundCall → Option OutboundCall
  | 0, call => some call
  | n + 1, call => (forward context call).bind fun sent => forwardTimes context n sent.1

/-- **A service on the way of a token**: what it knows about its caller besides the token, and the call
that it makes. -/
structure Hop where
  context : RequestContext
  call : OutboundCall

/-- **The calls of services in a row,** each with the token of the header that it was reached with. -/
def callsAlong : Option String → List Hop → Option (List OutboundCall)
  | _, [] => some []
  | header, hop :: hops =>
    (forward { hop.context with token := bearerToken? header } hop.call).bind fun sent =>
      (callsAlong (sent.1.headers.get? "authorization") hops).map (sent.1 :: ·)

/-- What a call becomes on behalf of a caller. -/
def OutboundCall.onBehalf (call : OutboundCall) : Option String → OutboundCall
  | some t => call.sealed t
  | none => call.bare

theorem sentFor_onBehalf {call : OutboundCall} (built : call.headers.Built) (token : Option String) :
    (call.onBehalf token).SentFor call token := by
  have lowered := Headers.lowered_of_built built
  cases token with
  | some t => exact sentFor_sealed lowered t
  | none => exact sentFor_bare lowered

/-- **The one step:** a call goes out on behalf of the caller whose token the header has. -/
theorem forward_eq {header : Option String} (delivered : ∀ h ∈ header, Delivered h)
    {context : RequestContext} (token : context.token = bearerToken? header) (call : OutboundCall) :
    ∃ log, forward context call = some (call.onBehalf (bearerToken? header), log) := by
  cases found : bearerToken? header with
  | none => exact ⟨_, forward_of_no_token (token.trans found) call⟩
  | some t =>
    obtain ⟨is_token, h, same, -⟩ := bearerToken?_eq_some found
    subst same
    have ne : t ≠ "" := by
      rintro rfl
      exact is_token.ne_nil rfl
    have value := isValue_bearerHeader (delivered h rfl) found
    exact ⟨_, forward_of_token (token.trans found) ne value call⟩

/-- **What the next service is reached with** is delivered, and has the same token. -/
theorem next_header {header : Option String} (delivered : ∀ h ∈ header, Delivered h)
    {call : OutboundCall} (built : call.headers.Built) :
    let next := (call.onBehalf (bearerToken? header)).headers.get? "authorization"
    (∀ h ∈ next, Delivered h) ∧ bearerToken? next = bearerToken? header := by
  intro next
  have next_eq : next = (bearerToken? header).map bearerHeader :=
    (sentFor_onBehalf built (bearerToken? header)).found "authorization" (by decide)
  rw [next_eq]
  cases found : bearerToken? header with
  | none => exact ⟨by simp, by simp [bearerToken?, afterScheme?]⟩
  | some t =>
    obtain ⟨is_token, h, same, -⟩ := bearerToken?_eq_some found
    subst same
    refine ⟨?_, bearerToken?_bearerHeader is_token⟩
    intro h' member
    cases member
    exact delivered_bearerHeader (delivered h rfl) found

theorem onBehalf_onBehalf (call : OutboundCall) (token : Option String) :
    (call.onBehalf token).onBehalf token = call.onBehalf token := by
  cases token with
  | some t => exact sealed_sealed call t
  | none => exact bare_bare call

/-- Forwarding any number of times, at least once, is forwarding once. -/
theorem forwardTimes_succ {header : Option String} (delivered : ∀ h ∈ header, Delivered h)
    {context : RequestContext} (token : context.token = bearerToken? header) (call : OutboundCall)
    (n : Nat) : forwardTimes context (n + 1) call = some (call.onBehalf (bearerToken? header)) := by
  induction n generalizing call with
  | zero =>
    obtain ⟨log, sent⟩ := forward_eq delivered token call
    rw [forwardTimes, sent, Option.bind_some, forwardTimes]
  | succ n ih =>
    obtain ⟨log, sent⟩ := forward_eq delivered token call
    rw [forwardTimes, sent, Option.bind_some, ih, onBehalf_onBehalf]

/-- Along a chain every service calls on behalf of the caller at its start. -/
theorem callsAlong_eq {header : Option String} (delivered : ∀ h ∈ header, Delivered h) (hops : List Hop)
    (built : ∀ hop ∈ hops, hop.call.headers.Built) :
    callsAlong header hops = some (hops.map fun hop => hop.call.onBehalf (bearerToken? header)) := by
  -- The header that the next service reads varies along the chain; the token in it does not.
  induction hops generalizing header with
  | nil => rfl
  | cons hop hops ih =>
    let context : RequestContext := { hop.context with token := bearerToken? header }
    obtain ⟨log, sent⟩ := forward_eq delivered (show context.token = bearerToken? header from rfl) hop.call
    have next := next_header delivered (built hop List.mem_cons_self)
    rw [callsAlong, sent, Option.bind_some, ih next.1 fun hop' member => built hop' (.tail _ member),
      next.2]
    rfl

/-- **The token goes through byte for byte.**  A call is forwarded on behalf of the caller whose token
stands in the header, or of none; forwarding again changes nothing more; and along a chain of services,
each of which reads the header of the call that reached it, every call is on behalf of that same
caller. -/
theorem forward_propagates {header : Option String} (delivered : ∀ h ∈ header, Delivered h)
    {context : RequestContext} (token : context.token = bearerToken? header)
    {call : OutboundCall} (built : call.headers.Built) :
    ∃ sent log,
      forward context call = some (sent, log) ∧
      sent.SentFor call (bearerToken? header) ∧
      bearerToken? (sent.headers.get? "authorization") = bearerToken? header ∧
      (∀ n, forwardTimes context (n + 1) call = some sent) ∧
      ∀ hops : List Hop, (∀ hop ∈ hops, hop.call.headers.Built) →
        ∃ calls, callsAlong header hops = some calls ∧
          List.Forall₂ (fun made hop =>
            made.SentFor hop.call (bearerToken? header) ∧
            bearerToken? (made.headers.get? "authorization") = bearerToken? header) calls hops := by
  obtain ⟨log, sent⟩ := forward_eq delivered token call
  refine ⟨_, log, sent, sentFor_onBehalf built _, (next_header delivered built).2,
    forwardTimes_succ delivered token call, ?_⟩
  intro hops hops_built
  refine ⟨_, callsAlong_eq delivered hops hops_built, ?_⟩
  rw [List.forall₂_map_left_iff, List.forall₂_same]
  intro hop member
  have hop_built := hops_built hop member
  exact ⟨sentFor_onBehalf hop_built _, (next_header delivered hop_built).2⟩

/-- A header whose token begins with the scheme and ends in a blank that is not trimmed. -/
private def oddHeader : String := "bEARER \u00a0 Bearer x\u00a0"

private theorem delivered_oddHeader : Delivered oddHeader where
  first := by
    intro c first
    have head : oddHeader.toList.head? = some 'b' := by decide
    rw [head] at first
    cases first
    decide
  last := by
    intro c last
    have last_one : oddHeader.toList.getLast? = some '\u00a0' := by decide
    rw [last_one] at last
    cases last
    decide
  chars := by
    have all : oddHeader.toList.all
        (fun c => c ≠ '\x00' ∧ c ≠ '\r' ∧ c ≠ '\n' ∧ c.toNat ≤ 255) = true := by
      decide
    intro c member
    exact of_decide_eq_true (List.all_eq_true.1 all c member)

/-- A call with a header that its handler put in. -/
private def dressedCall : OutboundCall where
  url := { scheme := "http", host := some "users", path := .segments ["me"] }
  method := "GET"
  headers := ⟨[("authorization", "Bearer other"), ("x-trace", "abc")]⟩

private theorem built_dressedCall : dressedCall.headers.Built :=
  have made : Headers.ofPairs? [("AUTHORIZATION", "Bearer other"), ("X-Trace", " abc ")] =
      some dressedCall.headers := by
    decide
  Headers.built_of_ofPairs? made

/-- Two services in a row. -/
private def twoHops : List Hop :=
  [⟨{ requestId := "r" }, dressedCall⟩, ⟨{ requestId := "s", token := some "forgotten" }, dressedCall⟩]

/-- An odd token, through two services. -/
theorem forward_propagates_odd :
    (∀ h ∈ some oddHeader, Delivered h) ∧ dressedCall.headers.Built ∧
      ∃ sent log,
        forward { requestId := "r", token := some "Bearer x\u00a0" } dressedCall = some (sent, log) ∧
        sent.headers.get? "Authorization" = some "Bearer Bearer x\u00a0" ∧
        bearerToken? (sent.headers.get? "authorization") = some "Bearer x\u00a0" ∧
        forwardTimes { requestId := "r", token := some "Bearer x\u00a0" } 7 dressedCall = some sent ∧
        ∃ calls, callsAlong (some oddHeader) twoHops = some calls ∧
          List.Forall₂ (fun made _ => made.headers.get? "Authorization" = some "Bearer Bearer x\u00a0")
            calls twoHops := by
  have delivered : ∀ h ∈ some oddHeader, Delivered h := by
    intro h same
    cases same
    exact delivered_oddHeader
  have found : bearerToken? (some oddHeader) = some "Bearer x\u00a0" := by decide
  have hops_built : ∀ hop ∈ twoHops, hop.call.headers.Built := by
    intro hop member
    rcases List.mem_pair.1 member with rfl | rfl
    · exact built_dressedCall
    · exact built_dressedCall
  obtain ⟨sent, log, forwarded, sentFor, again, times, along⟩ :=
    forward_propagates delivered
      (show ({ requestId := "r", token := some "Bearer x\u00a0" } : RequestContext).token = _ from found.symm)
      built_dressedCall
  rw [found] at sentFor again along
  obtain ⟨calls, made, each⟩ := along twoHops hops_built
  refine ⟨delivered, built_dressedCall, sent, log, forwarded, ?_, again, times 6, calls, made, ?_⟩
  · exact sentFor.found "Authorization" (by decide)
  · exact each.imp fun call hop made_for => made_for.1.found "Authorization" (by decide)

end BearerGate
