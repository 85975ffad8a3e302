import BearerGate.Proofs.KeySet.Reply

/-!
# A cache that cannot be told from none

While every fetch is answered with one document, nothing that the cache does can be seen in its answers:
hits, misses, searches that the cooldown cuts short, sets that expire and fetches that are shared all give
what fetching the document for every single call would give (`Call.uncached`).  The invariant is that
whatever is held of an issuer is what the document publishes (`held_of_steady`); `transparent` is the theorem.

A cache whose timers cannot be set sends no request at all (`doomed_eq`).  It never holds a set, and is
transparent too: the plain way fails there just as well.
-/

namespace BearerGate

namespace KeyCache

/-! ### The plain way -/

/-- What is said about an issuer that is not registered. -/
def Call.dismissed : Call → CallAnswer
  | key _ _ => .key none
  | refresh issuer => .unregistered issuer

/-- What some keys say to a call. -/
def Call.lookUp (keys : List KeyEntry) : Call → CallAnswer
  | key _ keyId => .key ((⟨0, keys⟩ : KeySet).find? keyId)
  | refresh _ => .count keys.length

/-- **What a call would be answered without a cache:** the document is fetched for this one call, which
fails if no request can be sent, and its usable keys are looked at. -/
def Call.uncached (s : Settings) (records : List KeyRecord) (c : Call) : CallAnswer :=
  if s.address? c.issuer = none then c.dismissed
  else if s.canFetch then c.lookUp (usableKeys s.importKey records)
  else .unavailable (.keysUnreachable c.issuer)

/-- An answer without the number of the fetch that its entry came with. -/
def CallAnswer.plain : CallAnswer → CallAnswer
  | key found => key (found.map fun f => { f with generation := 0 })
  | a => a

/-- What is found in a set depends on its number in nothing else. -/
theorem plain_find? (set : KeySet) (keyId : String) :
    (CallAnswer.key (set.find? keyId)).plain = .key ((⟨0, set.entries⟩ : KeySet).find? keyId) := by
  rw [CallAnswer.plain, KeySet.find?, KeySet.find?, Option.map_map]
  rfl

/-- Whoever hears of a set hears what its keys say. -/
theorem plain_answerTo (set : KeySet) (ttl now : Number) (known : IssuerState) (c : Call) :
    (answerTo (.ok set) (c.want ttl now known)).plain = c.lookUp set.entries := by
  cases c with
  | key issuer keyId => exact plain_find? set keyId
  | refresh issuer => rfl

/-- **Every fetch that has ended was answered with one document.** -/
def Steady (document : Option Json) (h : History) : Prop :=
  ∀ now issuer outcome, ⟨now, .fetchEnd issuer outcome⟩ ∈ h → outcome = .document document

theorem Steady.before {document : Option Json} {h h' : History} (steady : Steady document h')
    (part : h <:+ h') : Steady document h :=
  fun now issuer outcome member => steady now issuer outcome (part.subset member)

variable (s : Settings)

/-! ### Fetches under way -/

/-- **Either all fetches are sent, or none is.** -/
theorem doomed_eq (issuer : String) (h : History) {flight : Flight}
    (under_way : (knownAfter s h issuer).flight = some flight) : flight.doomed = !s.canFetch := by
  induction h generalizing flight with
  | nil => cases under_way
  | cons m h ih =>
    have changes := changes_cons s issuer h m
    generalize knownAfter s (m :: h) issuer = after at changes under_way
    cases changes with
    | stays => exact ih under_way
    | joins before =>
      cases under_way
      have same := ih before
      exact same
    | launches idle =>
      cases under_way
      rfl
    | lands before => cases under_way
    | refreshes before => cases under_way

/-- Nothing is brought where nothing can be sent. -/
theorem canFetch_of_isOut {issuer : String} {h : History} (out : isOut s issuer h = true) :
    s.canFetch = true := by
  rw [isOut_eq, IssuerState.isSent] at out
  cases under_way : (knownAfter s h issuer).flight with
  | none =>
    rw [under_way] at out
    cases out
  | some flight =>
    rw [under_way, Option.any_some, doomed_eq s issuer h under_way, Bool.not_not] at out
    exact out

/-! ### What is held -/

section Steady

variable {document : Option Json} {records : List KeyRecord}

/-- What is brought is what the document publishes. -/
theorem brought_of_steady (wellFormed : keyRecords document = .ok records) {issuer : String} {h : History}
    {m : Moment} (steady : Steady document (m :: h)) {now : Number} {keys : List KeyEntry}
    (brought : brought? s issuer h m = some (now, keys)) :
    s.canFetch = true ∧ keys = usableKeys s.importKey records := by
  obtain ⟨time, event⟩ := m
  cases event with
  | call caller c => cases brought
  | fetchEnd name outcome =>
    rw [brought?] at brought
    split at brought
    · rename_i out
      have same := steady time name outcome List.mem_cons_self
      subst same
      rw [FetchOutcome.published?, publishedKeys?, wellFormed] at brought
      cases brought
      exact ⟨canFetch_of_isOut s out.2, rfl⟩
    · cases brought

/-- **Whatever is held of an issuer is what the document publishes.** -/
theorem held_of_steady (wellFormed : keyRecords document = .ok records) {issuer : String} {h : History}
    (steady : Steady document h) {set : KeySet} (held : (knownAfter s h issuer).keys = some set) :
    s.canFetch = true ∧ set.entries = usableKeys s.importKey records := by
  have latest : ∀ now keys, latest? s issuer h = some (now, keys) →
      s.canFetch = true ∧ keys = usableKeys s.importKey records := by
    clear held
    induction h with
    | nil =>
      intro now keys none_yet
      cases none_yet
    | cons m h ih =>
      intro now keys last
      rw [latest?, Option.or_eq_some_iff] at last
      rcases last with brought | ⟨-, before⟩
      · exact brought_of_steady s wellFormed steady brought
      · exact ih (steady.before (List.suffix_cons m h)) now keys before
  refine latest (knownAfter s h issuer).fetchedAt set.entries ?_
  rw [← cached_eq_latest?, IssuerState.cached, held]
  rfl

/-! ### Answers -/

/-- Where a set is held, what is held under a key id is what there would be without a cache. -/
theorem plain_held? (wellFormed : keyRecords document = .ok records) {issuer keyId address : String}
    {h : History} (steady : Steady document h) (there : s.address? issuer = some address)
    {now : Number} (young : (knownAfter s h issuer).isYoung s.ttl now = true) :
    (CallAnswer.key ((knownAfter s h issuer).held? keyId)).plain =
      (Call.key issuer keyId).uncached s records := by
  rw [IssuerState.isYoung, Bool.and_eq_true] at young
  obtain ⟨set, held⟩ := Option.isSome_iff_exists.1 young.1
  obtain ⟨can, entries⟩ := held_of_steady s wellFormed steady held
  have registered : s.address? (Call.key issuer keyId).issuer ≠ none := by
    rw [Call.issuer, there]
    exact Option.some_ne_none address
  rw [IssuerState.held?, held, Option.bind_some, plain_find?, entries, Call.uncached, if_neg registered,
    if_pos can, Call.lookUp]

/-- What is answered at once is what there would be without a cache. -/
theorem plain_of_atOnce (wellFormed : keyRecords document = .ok records) {h : History}
    (steady : Steady document h) {now : Number} {c : Call} {a : CallAnswer}
    (answered : AtOnce s now (knownAfter s h c.issuer) c a) : a.plain = c.uncached s records := by
  cases answered with
  | stranger absent => exact (if_pos absent).symm
  | @hit issuer keyId address found there young held =>
    rw [← plain_held? s wellFormed steady there young]
    exact congrArg (fun f => (CallAnswer.key f).plain) held.symm
  | @cooling issuer keyId address there young missing =>
    rw [← plain_held? s wellFormed steady there young]
    exact congrArg (fun f => (CallAnswer.key f).plain) missing.symm
  | strangerRefresh absent => exact (if_pos absent).symm

/-- Where nothing can be sent, nothing is held to fall back on. -/
theorem answerTo_of_cannot (wellFormed : keyRecords document = .ok records) {h : History}
    (steady : Steady document h) (cannot : s.canFetch = false) (cause : Rejection) (now : Number) (c : Call) :
    answerTo (.error cause) (c.want s.ttl now (knownAfter s h c.issuer)) = .unavailable cause := by
  cases c with
  | refresh issuer => rfl
  | key issuer keyId =>
    have nothing : (knownAfter s h issuer).keys = none := by
      cases held : (knownAfter s h issuer).keys with
      | none => rfl
      | some set => exact absurd ((held_of_steady s wellFormed steady held).1.symm.trans cannot) (by simp)
    rw [Call.issuer, Call.want, IssuerState.fallback?, IssuerState.isExpired, nothing, Option.isSome_none,
      Bool.false_and, if_neg Bool.false_ne_true, answerTo]

/-- The fetch of someone who waits brings the document, unless it could not be sent. -/
theorem cannot_of_not_brought (wellFormed : keyRecords document = .ok records) {issuer : String}
    {h : History} {p : Inquiry} (waits : p ∈ waiting s issuer h) {now : Number}
    (nothing : brought? s issuer h ⟨now, .fetchEnd issuer (.document document)⟩ = none) :
    s.canFetch = false := by
  cases under_way : (knownAfter s h issuer).flight with
  | none =>
    rw [(waiting_eq_nil_iff s issuer h).2 under_way] at waits
    cases waits
  | some flight =>
    rw [brought?_of_flight s under_way, doomed_eq s issuer h under_way, FetchOutcome.published?,
      publishedKeys?, wellFormed] at nothing
    cases can : s.canFetch with
    | false => rfl
    | true =>
      rw [can] at nothing
      cases nothing

/-- A document of the right shape is not what keys are unavailable for. -/
theorem unreachable_of_wellFormed (wellFormed : keyRecords document = .ok records) {issuer : String}
    {cause : Rejection} (unavailable : Unavailable issuer (.document document) cause) :
    cause = .keysUnreachable issuer := by
  cases unavailable with
  | unreachable => rfl
  | misshapen misshapen =>
    obtain ⟨faults, wrong⟩ := misshapen
    exact absurd (wellFormed.symm.trans wrong) (by simp)

/-- **Every reply is what there would be without a cache.** -/
theorem plain_of_reply (wellFormed : keyRecords document = .ok records) {h : History} {m : Moment}
    (steady : Steady document (m :: h)) {p : Inquiry} {a : CallAnswer}
    (reply : (p, a) ∈ repliesAt s h m) : a.plain = p.call.uncached s records := by
  have steady_before := steady.before (List.suffix_cons m h)
  rcases hears_of_reply s reply with
    ⟨-, rfl, at_once⟩ | ⟨now, issuer, outcome, result, rfl, waits, heard, rfl⟩
  · exact plain_of_atOnce s wellFormed steady_before at_once
  · obtain ⟨rfl, made, silent, -⟩ := kept_of_waiting s waits
    have same := steady now p.call.issuer outcome List.mem_cons_self
    subst same
    rw [Call.uncached, if_neg (registered_of_silent s silent)]
    cases heard with
    | @brings set brought held =>
      obtain ⟨can, entries⟩ := brought_of_steady s wellFormed steady brought
      rw [if_pos can, ← entries]
      exact plain_answerTo set s.ttl p.now (p.known s) p.call
    | fails nothing unavailable =>
      have cannot := cannot_of_not_brought s wellFormed waits nothing
      have before : Steady document p.before :=
        steady_before.before ((List.suffix_cons p.moment p.before).trans made)
      rw [cannot, if_neg Bool.false_ne_true, ← unreachable_of_wellFormed wellFormed unavailable, Inquiry.want,
        Inquiry.known, answerTo_of_cannot s wellFormed before cannot]
      rfl

/-- **What transparency means** after a history. -/
structure Transparent (document : Option Json) (records : List KeyRecord) (h : History) : Prop where
  /-- Every reply that was given is what there would be without a cache. -/
  replies : ∀ m before, m :: before <:+ h → ∀ r ∈ repliesAt s before m,
    r.2.plain = r.1.call.uncached s records
  /-- Whatever was answered was such a reply. -/
  addressed : ∀ m before, m :: before <:+ h →
    (repliesAt s before m).map (fun r => (r.1.caller, r.2)) = answersAt s before m
  /-- Every call that was made has its reply, or waits, -/
  heard : ∀ p : Inquiry, p.moment :: p.before <:+ h →
    p ∈ waiting s p.call.issuer h ∨ ∃ m before a, m :: before <:+ h ∧ (p, a) ∈ repliesAt s before m
  /-- and then has it when the document comes. -/
  pending : ∀ issuer, ∀ p ∈ waiting s issuer h, ∀ now, ∃ a,
    (p, a) ∈ repliesAt s h ⟨now, .fetchEnd issuer (.document document)⟩ ∧
      a.plain = p.call.uncached s records

/-- **Transparency.**  While every fetch is answered with one document of the right shape, every call is
answered as it would be without a cache. -/
theorem transparent (wellFormed : keyRecords document = .ok records) {h : History}
    (steady : Steady document h) : Transparent s document records h where
  replies m before part r reply := plain_of_reply s wellFormed (steady.before part) reply
  addressed m before _ := map_repliesAt s before m
  heard := waiting_or_replied s
  pending issuer p waits now := by
    obtain ⟨a, reply⟩ := reply_of_waiting s waits now (.document document)
    refine ⟨a, reply, plain_of_reply s wellFormed ?_ reply⟩
    intro now' name outcome member
    rcases List.mem_cons.1 member with this_moment | earlier
    · cases this_moment
      rfl
    · exact steady now' name outcome earlier

end Steady

/-- One issuer, with a cooldown of fifty milliseconds and sets that are expired after a second. -/
def briefly : Settings := { sources := [("iss-1", "https://idp.test/certs")], ttl := 1000, cooldown := 50 }

/-- A document with a key that is of use and one that is not. -/
def twoKeys : Json :=
  .object [("keys", .array [
    .object [("kty", .string "RSA"), ("kid", .string "a"), ("n", .string "AQAB"), ("e", .string "AQAB")],
    .object [("kty", .string "RSA"), ("kid", .string "b"), ("use", .string "enc")]])]

/-- What that document says of its keys. -/
def twoRecords : List KeyRecord :=
  [⟨"RSA", some "a", none, none, some "AQAB", some "AQAB", none, none, none⟩,
    ⟨"RSA", some "b", none, some "enc", none, none, none, none, none⟩]

/-- A search fetches the document, one for a key that is of no use is cut short, and in the end the set is
expired and a refresh shares the fetch of a search. -/
def ageing : History :=
  [⟨1200, .fetchEnd "iss-1" (.document twoKeys)⟩, ⟨1100, .call 3 (.refresh "iss-1")⟩,
    ⟨1100, .call 2 (.key "iss-1" "a")⟩, ⟨30, .call 1 (.key "iss-1" "b")⟩,
    ⟨20, .fetchEnd "iss-1" (.document twoKeys)⟩, ⟨0, .call 0 (.key "iss-1" "a")⟩]

/-- The cache is transparent through a cooldown and past the time to live. -/
theorem transparent_ageing :
    keyRecords (some twoKeys) = .ok twoRecords ∧ Steady (some twoKeys) ageing ∧
      Transparent briefly (some twoKeys) twoRecords ageing := by
  have wellFormed : keyRecords (some twoKeys) = .ok twoRecords := by rfl
  have steady : Steady (some twoKeys) ageing := by
    intro now issuer outcome member
    simp only [ageing, List.mem_cons, Moment.mk.injEq, Event.fetchEnd.injEq, reduceCtorEq, and_false,
      false_or, List.not_mem_nil, or_false] at member
    rcases member with ⟨-, -, same⟩ | ⟨-, -, same⟩
    · exact same
    · exact same
  exact ⟨wellFormed, steady, transparent briefly wellFormed steady⟩

end KeyCache

end BearerGate
