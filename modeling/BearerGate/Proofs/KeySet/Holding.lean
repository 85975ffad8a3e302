import BearerGate.Proofs.KeySet.Reply

/-!
# How many keys are held

The keys of an issuer's set, counted whatever their age.  The number changes only when a document comes, and is then
the number of its usable keys; so once keys are held, some are held until a document comes that has none
(`heldCount_pos_of_not_emptied`).

A refresh begins a fetch or joins the one that is under way, and hears of its end.  If no keys were held before, what it
hears is how many are held then (`refreshed_of_reply`): a fetch that fails brings none, and while the caller has
waited no other fetch can have ended.
-/

namespace BearerGate

namespace KeyCache

variable (k : Settings) (issuer : String)

/-- **How many keys are held** for an issuer, of whatever age. -/
def heldCount (h : History) : Nat := ((knownAfter k h issuer).keys.map (·.entries.length)).getD 0

/-- **A fetch has brought a document without a usable key** since some history. -/
def Emptied (h later : History) : Prop :=
  ∃ m before now, m :: before <:+ later ∧ h <:+ before ∧ brought? k issuer before m = some (now, [])

variable {k issuer}

/-- What is shown of the cache is as many key ids as keys are held. -/
theorem length_keyIds_peek (h : History) :
    ((peek k (stateAfter k h) issuer).getD ⟨[], none⟩).keyIds.length = heldCount k issuer h := by
  rw [heldCount, peek_eq]
  cases registered : k.address? issuer with
  | none =>
    rw [knownAfter_of_stranger k registered h]
    rfl
  | some address =>
    rw [IssuerState.cached, knownAfter]
    cases ((stateAfter k h).issuer issuer).keys with
    | none => rfl
    | some set => exact List.length_map _

/-- What was brought is held. -/
theorem heldCount_of_brought {h : History} {m : Moment} {now : Number} {keys : List KeyEntry}
    (brings : brought? k issuer h m = some (now, keys)) : heldCount k issuer (m :: h) = keys.length := by
  obtain ⟨set, held, same⟩ := Option.map_eq_some_iff.1 (cached_of_brought k brings)
  rw [heldCount, held, ← (Prod.mk.inj same).2]
  rfl

/-- Where nothing is brought, as many keys are held as before. -/
theorem heldCount_of_not_brought {h : History} {m : Moment} (nothing : brought? k issuer h m = none) :
    heldCount k issuer (m :: h) = heldCount k issuer h := by
  rw [heldCount, (kept_of_not_brought k nothing).1, heldCount]

/-- **Keys that are held stay held** until a document comes that has none. -/
theorem heldCount_pos_of_not_emptied {h later : History} (held : 0 < heldCount k issuer h) (grows : h <:+ later)
    (never : ¬Emptied k issuer h later) : 0 < heldCount k issuer later := by
  induction later with
  | nil =>
    rw [List.suffix_nil] at grows
    rw [grows] at held
    exact held
  | cons m later ih =>
    rcases List.suffix_cons_iff.1 grows with same | earlier
    · rw [same] at held
      exact held
    cases brings : brought? k issuer later m with
    | none =>
      rw [heldCount_of_not_brought brings]
      refine ih earlier fun ⟨m', before, now, part, since, empty⟩ => never ?_
      exact ⟨m', before, now, part.trans (List.suffix_cons m later), since, empty⟩
    | some brought =>
      obtain ⟨now, keys⟩ := brought
      rw [heldCount_of_brought brings]
      refine List.length_pos_iff.2 fun empty => never ⟨m, later, now, List.suffix_refl _, earlier, ?_⟩
      rw [brings, empty]

/-- **A refresh begins a fetch or joins the one that is under way,** and hears of its end. -/
structure JoinsOneFetch (k : Settings) (issuer : String) (p : Inquiry) (told : History) : Prop where
  /-- One fetch is counted if none was under way, and none if there is one to join. -/
  begun : (stateAfter k (p.moment :: p.before)).stats.fetches =
    (stateAfter k p.before).stats.fetches + if (knownAfter k p.before issuer).flight = none then 1 else 0
  /-- Then there is one, and the caller waits for it -/
  waits : p ∈ waiting k issuer (p.moment :: p.before)
  /-- until it ends. -/
  ends : ∃ now outcome b, told = ⟨now, .fetchEnd issuer outcome⟩ :: b ∧ p ∈ waiting k issuer b

/-- **What a refresh comes to,** by the keys that are held when it is answered. -/
inductive Refreshed (k : Settings) (issuer : String) (told : History) : CallAnswer → Prop
  | counted : Refreshed k issuer told (.count (heldCount k issuer told))
  | unavailable (cause : Rejection) (nothing : heldCount k issuer told = 0) :
    Refreshed k issuer told (.unavailable cause)
  | unregistered (nothing : heldCount k issuer told = 0) : Refreshed k issuer told (.unregistered issuer)

section Refresh

variable {p : Inquiry} {a : CallAnswer} {b : History} {m : Moment}

/-- A refresh of an issuer that is not registered is answered at once; any other waits for the end of a fetch. -/
theorem refresh_cases (asks : p.call = .refresh issuer) (reply : (p, a) ∈ repliesAt k b m) :
    (k.address? issuer = none ∧ a = .unregistered issuer) ∨
      ∃ now outcome result, m = ⟨now, .fetchEnd issuer outcome⟩ ∧ p ∈ waiting k issuer b ∧
        Heard k b now issuer outcome result ∧ a = answerTo result .count := by
  rcases hears_of_reply k reply with ⟨-, -, at_once⟩ | ⟨now, name, outcome, result, rfl, waits, heard, rfl⟩
  · rw [asks] at at_once
    cases at_once with
    | strangerRefresh absent => exact .inl ⟨absent, rfl⟩
  · obtain rfl : issuer = name := by
      rw [← (kept_of_waiting k waits).1, asks]
      rfl
    refine .inr ⟨now, outcome, result, rfl, waits, heard, ?_⟩
    rw [Inquiry.want, asks]
    rfl

theorem joinsOneFetch (asks : p.call = .refresh issuer) (registered : k.address? issuer ≠ none)
    (reply : (p, a) ∈ repliesAt k b m) : JoinsOneFetch k issuer p (m :: b) := by
  rcases refresh_cases asks reply with ⟨absent, -⟩ | ⟨now, outcome, result, rfl, waits, -, -⟩
  · exact absurd absent registered
  obtain ⟨about, -, silent, -⟩ := kept_of_waiting k waits
  refine ⟨?_, ?_, now, outcome, b, rfl, waits⟩
  · rcases settled_or_waits k p.before p.now p.caller p.call with settled | comes
    · obtain ⟨a', -, answered⟩ := settled.answers
      exact absurd (silent.symm.trans answered) (List.cons_ne_nil _ _).symm
    · obtain ⟨st₀, address, same, fetches, -, loads⟩ := comes.loads
      rw [about] at loads
      rw [knownAfter, ← same, ← fetches]
      change (stateAfter k (⟨p.now, .call p.caller p.call⟩ :: p.before)).stats.fetches = _
      generalize stateAfter k (⟨p.now, .call p.caller p.call⟩ :: p.before) = st' at loads ⊢
      generalize effectsAt k p.before ⟨p.now, .call p.caller p.call⟩ = effects at loads
      cases loads with
      | joins under_way =>
        rw [if_neg (by rw [under_way]; exact Option.some_ne_none _)]
        rfl
      | sends idle can =>
        rw [if_pos idle]
        rfl
      | fails idle cannot =>
        rw [if_pos idle]
        rfl
  · have waiting_now := waiting_call_of_silent silent
    rw [about] at waiting_now
    rw [Inquiry.moment, waiting_now]
    exact List.mem_append_right _ (List.mem_singleton.2 rfl)

/-- **A refresh tells how many keys are held,** if none were held before: a fetch that fails leaves it at that. -/
theorem refreshed_of_reply (asks : p.call = .refresh issuer) (bare : heldCount k issuer p.before = 0)
    (reply : (p, a) ∈ repliesAt k b m) : Refreshed k issuer (m :: b) a := by
  rcases refresh_cases asks reply with ⟨absent, rfl⟩ | ⟨now, outcome, result, rfl, waits, heard, rfl⟩
  · refine .unregistered ?_
    rw [heldCount, knownAfter_of_stranger k absent]
    rfl
  cases heard with
  | @brings set brought held =>
    have counted : set.entries.length = heldCount k issuer (⟨now, .fetchEnd issuer outcome⟩ :: b) :=
      (heldCount_of_brought brought).symm
    rw [answerTo, counted]
    exact .counted
  | @fails cause nothing unavailable =>
    refine .unavailable cause ?_
    obtain ⟨about, -, -, keys⟩ := kept_of_waiting k waits
    rw [Inquiry.known, about] at keys
    rw [heldCount_of_not_brought nothing, heldCount, keys]
    exact bare

end Refresh

end KeyCache

end BearerGate
