import BearerGate.Proofs.KeySet.History

/-!
# Sessions are histories

Whatever a session does to its cache, with groups of calls, waiting, and fetches that end in waves, is one
history of the cache: `callAll_continues` gives it for a group, and with it the moment to which each
answer and each fetched address belongs.  The only calls of that history are those of the group.
-/

namespace BearerGate

open KeyCache

namespace KeySession

/-- An effect that some moment of a history has had. -/
def HadEffect (settings : KeyCache.Settings) (h : History) (e : Effect) : Prop :=
  ∃ m before, m :: before <:+ h ∧ e ∈ effectsAt settings before m

theorem HadEffect.later {settings : KeyCache.Settings} {h h' : History} {e : Effect} (grows : h <:+ h')
    (had : HadEffect settings h e) : HadEffect settings h' e := by
  obtain ⟨m, before, part, member⟩ := had
  exact ⟨m, before, part.trans grows, member⟩

/-- **A session goes on along a history** with certain calls.  Its cache is in the state that the longer
history leads to, and what it answers and fetches comes from moments of that history. -/
structure Continues (calls : List Call) (h : History) (s : KeySession) (h' : History) (s' : KeySession)
    (answers : List (Nat × CallAnswer)) : Prop where
  settings : s'.settings = s.settings
  grows : h <:+ h'
  called : ∀ m ∈ h', m ∈ h ∨ ∀ caller c, m.event = .call caller c → c ∈ calls
  state : s'.state = stateAfter s.settings h'
  answered : ∀ e ∈ answers, HadEffect s.settings h' (.answer e.1 e.2)
  fetched : ∀ a ∈ s'.addresses, a ∈ s.addresses ∨ ∃ issuer, HadEffect s.settings h' (.send issuer a)

namespace Continues

variable {calls : List Call}

/-- A session that does nothing to its cache. -/
theorem refl {h : History} {s s' : KeySession} (settings : s'.settings = s.settings)
    (state : s'.state = stateAfter s.settings h) (addresses : s'.addresses = s.addresses) :
    Continues calls h s h s' [] where
  settings := settings
  grows := List.suffix_refl h
  called := fun _ => .inl
  state := state
  answered := by
    intro e member
    cases member
  fetched := by
    intro a member
    rw [addresses] at member
    exact .inl member

theorem trans {h h' h'' : History} {s s' s'' : KeySession} {first second : List (Nat × CallAnswer)}
    (start : Continues calls h s h' s' first) (rest : Continues calls h' s' h'' s'' second) :
    Continues calls h s h'' s'' (first ++ second) where
  settings := rest.settings.trans start.settings
  grows := start.grows.trans rest.grows
  called := fun m member => (rest.called m member).elim (start.called m) .inr
  state := by rw [rest.state, start.settings]
  answered := by
    intro e member
    rcases List.mem_append.1 member with before | after
    · exact (start.answered e before).later rest.grows
    · rw [← start.settings]
      exact rest.answered e after
  fetched := by
    intro a member
    rcases rest.fetched a member with before | ⟨issuer, had⟩
    · rcases start.fetched a before with old | ⟨issuer, had⟩
      · exact .inl old
      · exact .inr ⟨issuer, had.later rest.grows⟩
    · rw [start.settings] at had
      exact .inr ⟨issuer, had⟩

end Continues

/-! ### Taking note of effects -/

/-- Takes note of one effect. -/
private def note (p : KeySession × List (Nat × CallAnswer)) : Effect → KeySession × List (Nat × CallAnswer)
  | .send _ address => ({ p.1 with addresses := p.1.addresses ++ [address] }, p.2)
  | .answer caller a => (p.1, p.2 ++ [(caller, a)])
  | .log e => ({ p.1 with log := p.1.log ++ [e] }, p.2)
  | .count r => ({ p.1 with counts := p.1.counts ++ [r] }, p.2)

private theorem absorb_eq (s : KeySession) (effects : List Effect) :
    s.absorb effects = effects.foldl note (s, []) := by
  rw [absorb]
  congr 1

/-- What is kept when effects are taken note of, and what is added. -/
private structure Noted (s : KeySession) (answers : List (Nat × CallAnswer)) (effects : List Effect)
    (r : KeySession × List (Nat × CallAnswer)) : Prop where
  settings : r.1.settings = s.settings
  state : r.1.state = s.state
  answers : r.2 = answers ++ effects.filterMap Effect.answer?
  addresses : r.1.addresses = s.addresses ++ effects.filterMap fun e => e.sent?.map (·.2)

private theorem noted_foldl (effects : List Effect) (s : KeySession) (answers : List (Nat × CallAnswer)) :
    Noted s answers effects (effects.foldl note (s, answers)) := by
  induction effects generalizing s answers with
  | nil => exact ⟨rfl, rfl, by simp, by simp⟩
  | cons e effects ih =>
    rw [List.foldl_cons]
    cases e with
    | send issuer address =>
      obtain ⟨settings, state, answered, addresses⟩ :=
        ih { s with addresses := s.addresses ++ [address] } answers
      exact ⟨settings, state, answered, by rw [note, addresses, List.append_assoc]; rfl⟩
    | answer caller a =>
      obtain ⟨settings, state, answered, addresses⟩ := ih s (answers ++ [(caller, a)])
      exact ⟨settings, state, by rw [note, answered, List.append_assoc]; rfl, addresses⟩
    | log entry =>
      obtain ⟨settings, state, answered, addresses⟩ := ih { s with log := s.log ++ [entry] } answers
      exact ⟨settings, state, answered, addresses⟩
    | count r =>
      obtain ⟨settings, state, answered, addresses⟩ := ih { s with counts := s.counts ++ [r] } answers
      exact ⟨settings, state, answered, addresses⟩

/-- Taking note of the effects of moments goes on along their history. -/
private theorem continues_absorb {h h' : History} {s : KeySession} {st : KeyCache.State}
    {effects : List Effect} {calls : List Call} (grows : h <:+ h')
    (called : ∀ m ∈ h', m ∈ h ∨ ∀ caller c, m.event = .call caller c → c ∈ calls)
    (state : st = stateAfter s.settings h') (had : ∀ e ∈ effects, HadEffect s.settings h' e) :
    Continues calls h s h' (({ s with state := st } : KeySession).absorb effects).1
      (({ s with state := st } : KeySession).absorb effects).2 := by
  rw [absorb_eq]
  obtain ⟨settings', state', answers, addresses⟩ :=
    noted_foldl effects ({ s with state := st } : KeySession) []
  refine ⟨settings', grows, called, state'.trans state, ?_, ?_⟩
  · intro e member
    rw [answers, List.nil_append] at member
    obtain ⟨effect, there, is_answer⟩ := List.mem_filterMap.1 member
    cases effect with
    | answer caller a =>
      cases is_answer
      exact had _ there
    | send issuer address => cases is_answer
    | log entry => cases is_answer
    | count r => cases is_answer
  · intro a member
    rw [addresses] at member
    rcases List.mem_append.1 member with old | new
    · exact .inl old
    · obtain ⟨effect, there, is_send⟩ := List.mem_filterMap.1 new
      cases effect with
      | send issuer address =>
        cases is_send
        exact .inr ⟨issuer, had _ there⟩
      | answer caller answer => cases is_send
      | log entry => cases is_send
      | count r => cases is_send

/-! ### The parts of a group -/

private theorem continues_begin {calls : List Call} (openings : List Opening)
    (among : ∀ c ∈ callsOf openings, c ∈ calls) (caller : Nat) (s : KeySession) (h : History)
    (reached : s.state = stateAfter s.settings h) :
    ∃ h', Continues calls h s h' (s.begin caller openings).1 (s.begin caller openings).2 := by
  induction openings generalizing caller s h with
  | nil => exact ⟨h, .refl rfl reached rfl⟩
  | cons opening rest ih =>
    cases opening with
    | wait ms =>
      obtain ⟨h', continues⟩ := ih among caller (s.advance ms) h reached
      have waited : Continues calls h s h (s.advance ms) [] := .refl rfl reached rfl
      have both := waited.trans continues
      rw [List.nil_append] at both
      exact ⟨h', both⟩
    | call c =>
      -- The moment of this call, and then those of the rest of the group.
      have grows : h <:+ ⟨s.clock, .call caller c⟩ :: h := List.suffix_cons _ h
      have state : (KeyCache.start s.settings s.clock s.state caller c).1 =
          stateAfter s.settings (⟨s.clock, .call caller c⟩ :: h) := by
        rw [reached]
        rfl
      have had : ∀ e ∈ (KeyCache.start s.settings s.clock s.state caller c).2,
          HadEffect s.settings (⟨s.clock, .call caller c⟩ :: h) e := by
        intro e member
        rw [reached] at member
        exact ⟨_, h, List.suffix_refl _, member⟩
      have among : ∀ c' ∈ c :: callsOf rest, c' ∈ calls := among
      have called : ∀ m ∈ ⟨s.clock, .call caller c⟩ :: h,
          m ∈ h ∨ ∀ caller c, m.event = .call caller c → c ∈ calls := by
        intro m member
        rcases List.mem_cons.1 member with rfl | old
        · refine .inr fun caller' c' same => ?_
          cases same
          exact among c List.mem_cons_self
        · exact .inl old
      have first := continues_absorb grows called state had
      obtain ⟨h', continues⟩ := ih (fun c' member => among c' (List.mem_cons_of_mem c member)) (caller + 1) _ _ (first.state.trans (by rw [first.settings]))
      exact ⟨h', first.trans continues⟩

/-- Letting fetches take their time moves the clock and the script, and nothing else. -/
private theorem play_kept (flights : List (String × Flight)) (s : KeySession) :
    (s.play flights).1.settings = s.settings ∧ (s.play flights).1.state = s.state ∧
      (s.play flights).1.addresses = s.addresses := by
  induction flights generalizing s with
  | nil => exact ⟨rfl, rfl, rfl⟩
  | cons f flights ih =>
    obtain ⟨issuer, flight⟩ := f
    rw [play]
    by_cases doomed : flight.doomed = true
    · rw [if_pos doomed]
      exact ih s
    · rw [if_neg doomed]
      cases next : s.script.next.1 with
      | none =>
        simp only [next]
        exact ih { s with script := s.script.next.2 }
      | some step =>
        simp only [next]
        exact ih (({ s with script := s.script.next.2 } : KeySession).advance step.delay)

/-- The end of one more fetch. -/
private def settleNext (settings : KeyCache.Settings) (now : Number)
    (p : KeyCache.State × List TimedEffect) (last : String × FetchOutcome) :
    KeyCache.State × List TimedEffect :=
  ((KeyCache.settle settings now p.1 last.1 last.2).1,
    p.2 ++ (KeyCache.settle settings now p.1 last.1 last.2).2)

private theorem finish_eq (s : KeySession) (ends : List (String × FetchOutcome)) :
    s.finish ends =
      ({ s with state := (ends.foldl (settleNext s.settings s.clock) (s.state, [])).1 } :
        KeySession).absorb (inTurns (ends.foldl (settleNext s.settings s.clock) (s.state, [])).2) := rfl

/-- The ends of fetches, one after the other, are moments. -/
private theorem settled_foldl (settings : KeyCache.Settings) (now : Number)
    (ends : List (String × FetchOutcome)) (h : History) (effects : List TimedEffect)
    (had : ∀ e ∈ effects, HadEffect settings h e.effect) :
    ∃ h', h <:+ h' ∧ (∀ m ∈ h', m ∈ h ∨ ∃ issuer outcome, m.event = .fetchEnd issuer outcome) ∧
      (ends.foldl (settleNext settings now) (stateAfter settings h, effects)).1 = stateAfter settings h' ∧
      ∀ e ∈ (ends.foldl (settleNext settings now) (stateAfter settings h, effects)).2,
        HadEffect settings h' e.effect := by
  induction ends generalizing h effects with
  | nil => exact ⟨h, List.suffix_refl h, fun _ => .inl, rfl, had⟩
  | cons last ends ih =>
    obtain ⟨issuer, outcome⟩ := last
    have had_next : ∀ e ∈ effects ++
        (KeyCache.settle settings now (stateAfter settings h) issuer outcome).2,
          HadEffect settings (⟨now, .fetchEnd issuer outcome⟩ :: h) e.effect := by
      intro e member
      rcases List.mem_append.1 member with before | new
      · exact (had e before).later (List.suffix_cons _ h)
      · exact ⟨_, h, List.suffix_refl _, List.mem_map.2 ⟨e, new, rfl⟩⟩
    obtain ⟨h', grows, ended, state, all⟩ := ih (⟨now, .fetchEnd issuer outcome⟩ :: h) _ had_next
    refine ⟨h', (List.suffix_cons _ h).trans grows, ?_, state, all⟩
    intro m member
    rcases ended m member with here | there
    · rcases List.mem_cons.1 here with rfl | old
      · exact .inr ⟨issuer, outcome, rfl⟩
      · exact .inl old
    · exact .inr there

theorem mem_of_mem_inTurns {effects : List TimedEffect} {e : Effect} (member : e ∈ inTurns effects) :
    ∃ timed ∈ effects, timed.effect = e := by
  simp only [inTurns, List.mem_flatMap, List.mem_map, List.mem_filter] at member
  obtain ⟨turn, -, timed, ⟨there, -⟩, same⟩ := member
  exact ⟨timed, there, same⟩

private theorem continues_finish {calls : List Call} (ends : List (String × FetchOutcome)) (s : KeySession)
    (h : History) (reached : s.state = stateAfter s.settings h) :
    ∃ h', Continues calls h s h' (s.finish ends).1 (s.finish ends).2 := by
  obtain ⟨h', grows, ended, state, all⟩ := settled_foldl s.settings s.clock ends h [] (by simp)
  refine ⟨h', ?_⟩
  rw [finish_eq, reached]
  generalize ends.foldl (settleNext s.settings s.clock) (stateAfter s.settings h, []) = p at state all
  refine continues_absorb grows ?_ state ?_
  · refine fun m member => (ended m member).imp id ?_
    rintro ⟨issuer, outcome, is_end⟩ caller c is_call
    rw [is_end] at is_call
    cases is_call
  · intro e member
    obtain ⟨timed, there, rfl⟩ := mem_of_mem_inTurns member
    exact all timed there

private theorem continues_finishAll {calls : List Call} (waves : List (List (String × FetchOutcome)))
    (s : KeySession) (h : History) (reached : s.state = stateAfter s.settings h) :
    ∃ h', Continues calls h s h' (s.finishAll waves).1 (s.finishAll waves).2 := by
  induction waves generalizing s h with
  | nil => exact ⟨h, .refl rfl reached rfl⟩
  | cons wave waves ih =>
    obtain ⟨h', (first : Continues calls h s h' _ _)⟩ := continues_finish wave s h reached
    obtain ⟨h'', rest⟩ := ih _ h' (first.state.trans (by rw [first.settings]))
    exact ⟨h'', first.trans rest⟩

/-- **A group is a history** with no other calls than its own.  The answers to its calls and the addresses that
are fetched during it come from moments of that history. -/
theorem callAll_continues (openings : List Opening) (s : KeySession) (h : History)
    (reached : s.state = stateAfter s.settings h) :
    ∃ h' answers, Continues (callsOf openings) h s h' (s.callAll openings).1 answers ∧
      ∀ a ∈ (s.callAll openings).2, ∃ caller, (caller, a) ∈ answers := by
  unfold callAll
  obtain ⟨h₁, first⟩ := continues_begin openings (fun _ => id) 0 s h reached
  generalize s.begin 0 openings = begun at first ⊢
  obtain ⟨s₁, answers₁⟩ := begun
  obtain ⟨settings, state, addresses⟩ := play_kept s₁.inFlight s₁
  dsimp only at first ⊢
  generalize s₁.play s₁.inFlight = played at settings state addresses ⊢
  obtain ⟨s₂, ends⟩ := played
  dsimp only at settings state addresses ⊢
  have reached₁ : s₁.state = stateAfter s₁.settings h₁ := first.state.trans (by rw [first.settings])
  have waited : Continues (callsOf openings) h₁ s₁ h₁ s₂ [] := .refl settings (state.trans reached₁) addresses
  obtain ⟨h₂, second⟩ := continues_finishAll (waves ends) s₂ h₁ (waited.state.trans (by rw [settings]))
  generalize s₂.finishAll (waves ends) = finished at second ⊢
  obtain ⟨s₃, answers₂⟩ := finished
  refine ⟨h₂, answers₁ ++ ([] ++ answers₂), first.trans (waited.trans second), ?_⟩
  intro a member
  obtain ⟨n, -, found⟩ := List.mem_filterMap.1 member
  obtain ⟨e, there, rfl⟩ := Option.map_eq_some_iff.1 found
  exact ⟨e.1, List.mem_of_find?_eq_some there⟩

/-- One call is a history with no other call. -/
theorem call_continues (c : Call) (s : KeySession) (h : History)
    (reached : s.state = stateAfter s.settings h) :
    ∃ h' answers, Continues [c] h s h' (s.call c).1 answers := by
  obtain ⟨h', answers, continues, -⟩ := callAll_continues [.call c] s h reached
  have last : (s.call c).1 = (s.callAll [.call c]).1 := by rw [call]
  rw [last]
  exact ⟨h', answers, continues⟩

end KeySession

end BearerGate
