import BearerGate.Deployment
import BearerGate.Proofs.KeySet.Session

/-!
# What a deployment leaves as it is

Services that work side by side call each other, and a service that waits finds its own state changed by others.
What none of this changes is what a service is: its name, its handlers, its issuer and the settings of its key
cache stay, and its cache goes on along a history whose calls are all about its own issuer
(`Instance.GoesOn`).  This holds of the answer to every question of a task (`answer_goesOn`), hence of a whole
run of a service, however deep its calls go (`serve_goesOn`), and of every request from outside
(`exchange_goesOn`).
-/

namespace BearerGate

open KeyCache

/-! ### Services that go on -/

/-- **A service goes on:** it stays what it is, and its cache goes on with calls about its own issuer. -/
structure Instance.GoesOn (i i' : Instance) : Prop where
  same : i' = { i with keys := i'.keys, state := i'.state, numbered := i'.numbered }
  addresses : i'.keys.addresses = i.keys.addresses ∨ i'.keys.addresses = []
  cache : ∀ h, i.keys.state = stateAfter i.keys.settings h →
    ∃ h', h <:+ h' ∧ i'.keys.settings = i.keys.settings ∧ i'.keys.state = stateAfter i.keys.settings h' ∧
      ∀ m ∈ h', m ∈ h ∨ ∀ caller c, m.event = .call caller c → c.issuer = i.issuer

namespace Instance.GoesOn

variable {i i' i'' : Instance}

theorem name (goes : i.GoesOn i') : i'.name = i.name := by rw [goes.same]

theorem issuer (goes : i.GoesOn i') : i'.issuer = i.issuer := by rw [goes.same]

/-- A service whose cache is left alone. -/
theorem of_keys (same : i' = { i with state := i'.state, numbered := i'.numbered }) : i.GoesOn i' where
  same := by rw [same]
  addresses := by rw [same]; exact .inl rfl
  cache := fun h reached => ⟨h, List.suffix_refl h, by rw [same], by rw [same]; exact reached, fun _ => .inl⟩

theorem refl (i : Instance) : i.GoesOn i := of_keys rfl

theorem trans (first : i.GoesOn i') (rest : i'.GoesOn i'') : i.GoesOn i'' where
  same := by rw [rest.same, first.same]
  addresses := rest.addresses.elim (fun kept => kept ▸ first.addresses) .inr
  cache := by
    intro h reached
    obtain ⟨h', grows, settings, reached', calls⟩ := first.cache h reached
    obtain ⟨h'', grows', settings', reached'', calls'⟩ := rest.cache h' (by rw [settings]; exact reached')
    rw [settings] at settings' reached''
    rw [first.issuer] at calls'
    exact ⟨h'', grows.trans grows', settings', reached'', fun m member => (calls' m member).elim (calls m) .inr⟩

/-- A service whose cache takes one call about its issuer, at some time. -/
theorem of_call {clock : Number} {c : Call} (about : c.issuer = i.issuer) {s keys : KeySession}
    (called : (({ i.keys with clock } : KeySession).call c).1 = s) (settings : keys.settings = s.settings)
    (state : keys.state = s.state) (clean : keys.addresses = []) : i.GoesOn { i with keys } where
  same := rfl
  addresses := .inr clean
  cache := by
    intro h reached
    subst called
    obtain ⟨h', answers, continues⟩ := KeySession.call_continues c { i.keys with clock } h reached
    refine ⟨h', continues.grows, settings.trans continues.settings, state.trans continues.state, ?_⟩
    refine fun m member => (continues.called m member).imp id fun is_own caller c' is_call => ?_
    rw [List.mem_singleton.1 (is_own caller c' is_call)]
    exact about

end Instance.GoesOn

/-! ### Deployments that go on -/

namespace Deployment

/-- **A deployment goes on:** all of its services do. -/
def GoesOn (d d' : Deployment) : Prop :=
  ∀ name i, d.find? name = some i → ∃ i', d'.find? name = some i' ∧ i.GoesOn i'

variable {d d' d'' : Deployment}

theorem GoesOn.of_instances (same : d'.instances = d.instances) : d.GoesOn d' := by
  intro name i found
  refine ⟨i, ?_, .refl i⟩
  rw [find?, same]
  exact found

theorem GoesOn.refl (d : Deployment) : d.GoesOn d := of_instances rfl

theorem GoesOn.trans (first : d.GoesOn d') (rest : d'.GoesOn d'') : d.GoesOn d'' := by
  intro name i found
  obtain ⟨i', found', goes⟩ := first name i found
  obtain ⟨i'', found'', goes'⟩ := rest name i' found'
  exact ⟨i'', found'', goes.trans goes'⟩

theorem name_of_find? {name : String} {i : Instance} (found : d.find? name = some i) : i.name = name :=
  of_decide_eq_true (List.find?_some found :)

/-- What is found under a name after one service was changed, if it has kept its name. -/
theorem find?_update {name : String} {f : Instance → Instance} (named : ∀ i, (f i).name = i.name)
    (other : String) :
    (d.update name f).find? other = (d.find? other).map fun i => if i.name = name then f i else i := by
  rw [update, find?, List.find?_map, find?]
  refine congrArg (Option.map _) (congrArg (d.instances.find? ·) (funext fun i => ?_))
  dsimp only [Function.comp_apply]
  split
  · rw [named]
  · rfl

/-- A change of one service that it goes on with. -/
theorem GoesOn.update {name : String} {f : Instance → Instance} (named : ∀ i, (f i).name = i.name)
    (goes : ∀ i, d.find? name = some i → i.GoesOn (f i)) : d.GoesOn (d.update name f) := by
  intro other i found
  rw [find?_update named, found]
  refine ⟨_, rfl, ?_⟩
  dsimp only
  split
  · rename_i same
    rw [name_of_find? found] at same
    exact goes i (same ▸ found)
  · exact .refl i

/-! ### The answers to questions -/

theorem instances_record_foldl (counts : List FetchResult) (d : Deployment) :
    (counts.foldl (fun d r => d.record (.keySetFetch (fetchResultName r))) d).instances = d.instances := by
  induction counts generalizing d with
  | nil => rfl
  | cons r counts ih => exact ih _

/-- Taking over what a key session has caused changes no service but its own, and that one only in its
keys. -/
theorem absorbKeys_eq (d : Deployment) (i : Instance) (s : KeySession) :
    ∃ noted : Deployment, noted.instances = d.instances ∧
      d.absorbKeys i s = noted.update i.name fun i =>
        { i with keys := { s with log := [], counts := [], addresses := [] } } := by
  refine ⟨_, ?_, rfl⟩
  exact instances_record_foldl s.counts d

theorem keyCall_eq (i : Instance) (c : Call) (d : Deployment) :
    keyCall i c d = ((({ i.keys with clock := d.clock } : KeySession).call c).2,
      d.absorbKeys i (({ i.keys with clock := d.clock } : KeySession).call c).1) := by
  rw [keyCall]

/-- A call on the cache of a service, about the service's issuer. -/
theorem keyCall_goesOn {name : String} {i : Instance} (found : d.find? name = some i) {c : Call}
    (about : c.issuer = i.issuer) : d.GoesOn (keyCall i c d).2 := by
  rw [keyCall_eq]
  generalize called : (({ i.keys with clock := d.clock } : KeySession).call c).1 = s
  obtain ⟨noted, same, absorbed⟩ := absorbKeys_eq d i s
  dsimp only
  rw [absorbed, name_of_find? found]
  refine .trans (.of_instances same) (.update (fun _ => rfl) fun i' found' => ?_)
  rw [find?, same] at found'
  cases found.symm.trans found'
  exact .of_call about called rfl rfl rfl

/-- **What is done with a deployment lets it go on.** -/
def LetsGoOn {α : Type} (x : Deployed α) : Prop := ∀ d : Deployment, d.GoesOn (x d).2

namespace LetsGoOn

variable {α β : Type}

theorem pure (a : α) : LetsGoOn (Pure.pure a : Deployed α) := GoesOn.refl

theorem bind {x : Deployed α} {f : α → Deployed β} (first : LetsGoOn x) (next : ∀ a, LetsGoOn (f a)) :
    LetsGoOn (x >>= f) := fun d => (first d).trans (next _ _)

/-- What is done with a deployment after looking at it. -/
theorem of_get {f : Deployment → Deployed β} (next : ∀ d : Deployment, d.GoesOn (f d d).2) :
    LetsGoOn ((get : Deployed Deployment) >>= f) := next

/-- A change that leaves the services alone. -/
theorem modify {f : Deployment → Deployment} (same : ∀ d, (f d).instances = d.instances) :
    LetsGoOn (modify f : Deployed PUnit) := fun d => .of_instances (same d)

end LetsGoOn

/-- The delivery of a call, if the services go on while they work. -/
theorem deliver_goesOn {serve : String → Request → Deployed (Option Reply)}
    (works : ∀ name r, LetsGoOn (serve name r)) (c : OutboundCall) : LetsGoOn (deliver serve c) := by
  rw [deliver]
  refine .bind (.modify fun _ => rfl) fun _ => .of_get fun d => ?_
  cases Table.get? d.hosts c.url.hostText with
  | some script => exact .of_instances rfl
  | none =>
    cases d.find? (serviceOfHost c.url.hostText) with
    | none => exact .refl d
    | some i =>
      cases requestOf c with
      | error why => exact .refl d
      | ok r =>
        refine LetsGoOn.bind (works i.name r) (fun reply => .of_get fun after => ?_) d
        split
        · exact .refl _
        · exact .refl _

/-- **The answer to a question lets the deployment go on.** -/
theorem answer_goesOn {serve : String → Request → Deployed (Option Reply)}
    (works : ∀ name r, LetsGoOn (serve name r)) (name : String) (q : Ask) :
    LetsGoOn (answer serve name q) := by
  cases q with
  | time | timer | heldKeys | keyStats | metricsText => exact GoesOn.refl
  | log e | record e => exact fun d => .of_instances rfl
  | requestNumber => exact fun d => .update (fun _ => rfl) fun i _ => .of_keys rfl
  | call c => exact deliver_goesOn works c
  | key keyId =>
    intro d
    rw [answer]
    cases found : d.find? name with
    | none =>
      simp only [found]
      exact .refl d
    | some i =>
      cases broken : i.keyBreakdown with
      | some why =>
        simp only [found, broken]
        exact .refl d
      | none =>
        have goes : d.GoesOn (keyCall i (.key i.issuer keyId) d).2 := keyCall_goesOn found rfl
        simp only [found, broken]
        generalize keyCall i (.key i.issuer keyId) d = called at goes ⊢
        exact goes
  | refreshKeys =>
    intro d
    rw [answer]
    cases found : d.find? name with
    | none =>
      simp only [found]
      exact .refl d
    | some i =>
      simp only [found]
      exact keyCall_goesOn found rfl

/-! ### Runs -/

/-- A task that is run in a deployment lets it go on, if the answers to its questions do, and the changes of
its state. -/
theorem run_goesOn {σ α : Type} {answer : (q : Ask) → Deployed q.Answer} {load : Deployed σ}
    {store : σ → Deployed Unit} (answers : ∀ q, LetsGoOn (answer q)) (loads : LetsGoOn load)
    (stores : ∀ s, LetsGoOn (store s)) (x : Step σ α) : LetsGoOn (x.run answer load store) := by
  induction x with
  | done s a => exact .bind (stores s) fun _ => .pure a
  | ask s q resume ih =>
    exact .bind (stores s) fun _ => .bind (answers q) fun a => .bind loads fun s => ih a s

/-- **A service that works lets the deployment go on,** however deep its calls go. -/
theorem serve_goesOn (hops : Nat) (name : String) (r : Request) : LetsGoOn (serve hops name r) := by
  induction hops generalizing name r with
  | zero => exact .pure none
  | succ hops ih =>
    rw [serve]
    refine .of_get fun d => ?_
    cases d.find? name with
    | none => exact .refl d
    | some i =>
      refine run_goesOn (answer_goesOn ih name) (fun d => .refl d) (fun s => ?_) _ d
      exact fun d => .update (fun _ => rfl) fun i _ => .of_keys rfl

/-- **A request from outside lets the deployment go on.** -/
theorem exchange_goesOn (name : String) (wait : Number) (r : Request) : LetsGoOn (exchange name wait r) := by
  rw [exchange]
  refine .bind (.modify fun _ => rfl) fun _ => .of_get fun d => ?_
  cases d.find? name with
  | none => exact .refl d
  | some i =>
    cases r.sent with
    | error why => exact .refl d
    | ok r =>
      refine LetsGoOn.bind (serve_goesOn hopLimit name r) (fun reply => .of_get fun after => ?_) d
      split
      · exact .refl _
      · split
        · exact .refl _
        · exact .refl _

/-- **A deployment after requests from outside,** each with the name of its service and the time that has
passed before it. -/
def after (d : Deployment) (run : List (String × Number × Request)) : Deployment :=
  run.foldl (fun d e => (exchange e.1 e.2.1 e.2.2 d).2) d

/-- **A deployment goes on through all requests from outside.** -/
theorem after_goesOn (d : Deployment) (run : List (String × Number × Request)) : d.GoesOn (d.after run) := by
  induction run generalizing d with
  | nil => exact .refl d
  | cons e run ih => exact (exchange_goesOn e.1 e.2.1 e.2.2 d).trans (ih _)

end Deployment

end BearerGate
