import BearerGate.Proofs.Http.Headers
import BearerGate.Proofs.Schema.Checked
import BearerGate.Proofs.Service.Ledger
import BearerGate.Service.Routes.Products

/-!
# What gets into the catalogue

Nothing gets into the catalogue but what has passed the check of a body, and what has passed it is `Sound`
(`sound_of_productOfBody`): its name is filled and has no blanks around it, its price is not negative, and its stock
is a whole number that is not negative.  The check of the price has no bound from above, so a price may be infinite;
a stock may not, for infinity is no whole number.

A catalogue of sound products stays one whatever is asked of the product service (`within_productService`), so at each
move of a run every product is sound (`Site.stocked_before`).
-/

namespace BearerGate

open Number

/-! ### What passes the check -/

/-- **What passes the check of a body.** -/
structure ProductInput.Sound (input : ProductInput) : Prop where
  named : input.name ≠ ""
  trimmed : Text.trim input.name = input.name
  price : 0 ≤ input.price
  price_held : input.price.Held
  stock : 0 ≤ input.stock
  stock_held : input.stock.Held
  whole : input.stock.isInteger = true

theorem Number.held_ofNat (n : Nat) : (ofNat n).Held := by
  unfold ofNat ofInt ofSignedQuotient
  exact held_ofQuotient _ Nat.one_pos _

/-- A whole number is finite. -/
theorem Number.isFinite_of_isInteger {n : Number} (whole : n.isInteger = true) : n.isFinite = true := by
  cases n with
  | finite steps => rfl
  | _ => cases whole

/-- **The only price that is not finite** is the infinite one. -/
theorem ProductInput.Sound.price_eq {input : ProductInput} (sound : input.Sound)
    (endless : input.price.isFinite = false) : input.price = .infinite false := by
  have price := sound.price
  cases same : input.price with
  | finite steps =>
    rw [same] at endless
    cases endless
  | nan =>
    rw [same] at price
    exact absurd price (by decide +kernel)
  | infinite negative =>
    cases negative with
    | false => rfl
    | true =>
      rw [same] at price
      exact absurd price (by decide +kernel)

/-- A number that passes its check is there, and breaks no bound. -/
theorem eq_of_number_eq_fine {path : List PathStep} {bounds : List Checked.NumberBound} {j : Option Json} {n : Number}
    (fine : Checked.number path bounds j = .fine n) :
    j = some (.number n) ∧ ∀ b ∈ bounds, b.issue? n = none := by
  unfold Checked.number at fine
  split at fine
  · obtain ⟨rfl, -, fault_free⟩ := eq_of_bounded_eq_fine fine
    exact ⟨rfl, fault_free⟩
  · cases fine

/-- A name that passes its check has been trimmed, and there is something left of it. -/
theorem name_of_text_eq_fine {path : List PathStep} {j : Option Json} {name : String}
    (fine : Checked.text path (fun s => Checked.sized path 1 none (Text.trim s)) j = .fine name) :
    name ≠ "" ∧ Text.trim name = name := by
  unfold Checked.text Checked.sized at fine
  split at fine
  · rename_i s
    dsimp only at fine
    split at fine
    · cases fine
    · rename_i long
      cases fine
      refine ⟨fun empty => long ?_, Text.trim_trim s⟩
      rw [empty]
      decide
  · cases fine

/-- A number in a member of a settled object is one that the format holds. -/
theorem held_of_get? {members : Members} (settled : (Json.object members).Settled) {name : String} {n : Number}
    (there : Table.get? members name = some (.number n)) : n.Held := by
  cases settled with
  | object ordered each =>
    obtain ⟨⟨key, value⟩, here, rfl⟩ := Option.map_eq_some_iff.1 there
    have settled : (Json.number n).Settled := each _ (List.mem_of_find?_eq_some here)
    cases settled with
    | number held => exact held

/-- **What a body says about a product that passes the check is sound.** -/
theorem sound_of_productOfBody {body : Json} {input : ProductInput} (settled : body.Settled)
    (fine : productOfBody body = .fine input) : input.Sound := by
  unfold productOfBody at fine
  split at fine
  · dsimp only at fine
    obtain ⟨_, stock, others, stock_fine, rfl⟩ := fine_of_seq fine
    obtain ⟨_, price, texts, price_fine, rfl⟩ := fine_of_seq others
    obtain ⟨name, description, name_fine, -, rfl⟩ := fine_of_map_seq texts
    obtain ⟨named, trimmed⟩ := name_of_text_eq_fine name_fine
    obtain ⟨price_there, price_free⟩ := eq_of_number_eq_fine price_fine
    obtain ⟨stock_there, stock_free⟩ := eq_of_number_eq_fine stock_fine
    exact
      { named, trimmed
        price := issue?_nonnegative.1 (price_free .nonnegative (by simp))
        price_held := held_of_get? settled price_there
        stock := issue?_nonnegative.1 (stock_free .nonnegative (by simp))
        stock_held := held_of_get? settled stock_there
        whole := issue?_whole.1 (stock_free .whole (by simp)) }
  · cases fine

/-! ### The body of a request -/

/-- A body that should be there is one as well. -/
theorem settled_bodyObject {i : Inbound} (settled : i.body.Settled) : i.bodyObject.Settled := by
  unfold Inbound.bodyObject
  split
  · exact .object (Json.ofMembers_eq_object List.nodup_nil fun name member => by cases member) fun m member => by
      cases member
  · exact settled

/-! ### The catalogue -/

/-- **A catalogue of sound products.** -/
def Stocked (store : ProductStore) : Prop :=
  ∀ p ∈ store.records, ∃ input : ProductInput, p.value = input.members ∧ input.Sound

theorem stocked_empty : Stocked {} := by
  intro p member
  cases member

section Stores

variable {store : ProductStore} {input : ProductInput}

theorem stocked_create (stocked : Stocked store) (sound : input.Sound) : Stocked (store.create input.members).1 := by
  intro p member
  rcases List.mem_append.1 member with old | new
  · exact stocked p old
  · rw [List.mem_singleton.1 new]
    exact ⟨input, rfl, sound⟩

theorem stocked_update (stocked : Stocked store) (sound : input.Sound) (id : Nat) :
    Stocked (store.update id input.members).1 := by
  unfold NumberedStore.update
  split
  · intro p member
    obtain ⟨old, there, rfl⟩ := List.mem_map.1 member
    split
    · exact ⟨input, rfl, sound⟩
    · exact stocked old there
  · exact stocked

theorem stocked_remove (stocked : Stocked store) (id : Nat) : Stocked (store.remove id).1 :=
  fun p member => stocked p (List.mem_filter.1 member).1

end Stores

/-- **A catalogue that is filled with sound products.** -/
theorem stocked_ofList {inputs : List ProductInput} (sound : ∀ input ∈ inputs, input.Sound) :
    Stocked (NumberedStore.ofList (inputs.map ProductInput.members)) := by
  suffices filled : ∀ {store : ProductStore}, Stocked store →
      Stocked ((inputs.map ProductInput.members).foldl (fun s value => (s.create value).1) store) from
    filled stocked_empty
  induction inputs with
  | nil => exact fun stocked => stocked
  | cons input inputs ih =>
    intro store stocked
    exact ih (fun i member => sound i (List.mem_cons_of_mem _ member))
      (stocked_create stocked (sound input List.mem_cons_self))

/-- **What a catalogue starts with** if nothing else is said. -/
theorem stocked_defaults : Stocked (NumberedStore.ofList ProductStore.defaults) := by
  have whole : ∀ n : Nat, (OfNat.ofNat n : Number).Held := held_ofNat
  refine stocked_ofList fun input member => ?_
  simp only [ProductStore.defaultInputs, List.mem_cons, List.not_mem_nil, or_false] at member
  rcases member with rfl | rfl
  all_goals exact
    { named := by decide
      trimmed := by decide +kernel
      price := by decide +kernel
      price_held := by
        dsimp only
        exact held_ofDecimal _ _ _
      stock := by decide +kernel
      stock_held := whole _
      whole := by decide +kernel }

/-! ### The product service -/

/-- **Keeping the products sound.** -/
def Contract.stocking : Contract ServiceState where
  relies _ _ := True
  keeps st st' := Stocked st.products → Stocked st'.products
  asks _ := True
  refl _ := id
  trans first rest := rest ∘ first

theorem liberal_stocking : Contract.stocking.Liberal := fun _ _ => trivial

/-- A change of the catalogue that keeps the products sound. -/
theorem within_changeProducts {α : Type} {f : ProductStore → ProductStore × α}
    (sound : ∀ store, Stocked store → Stocked (f store).1) : Handling.Within Contract.stocking (changeProducts f) :=
  .ofTask (.modifyGet fun st stocked => sound st.products stocked)

section Writers

variable (s : Service) {i : Inbound}

theorem within_createProductHandler (settled : i.body.Settled) :
    Handling.Within Contract.stocking (createProductHandler s i) := by
  unfold createProductHandler
  split
  · exact within_invalidAnswer liberal_stocking i _ _
  · rename_i input fine
    have sound := sound_of_productOfBody (settled_bodyObject settled) fine
    refine .bind (within_changeProducts fun store stocked => stocked_create stocked sound) fun product => ?_
    exact .bind (within_caller i) fun p => .bind (.log liberal_stocking _) fun _ => .pure _

theorem within_updateProductHandler (settled : i.body.Settled) :
    Handling.Within Contract.stocking (updateProductHandler s i) := by
  unfold updateProductHandler
  split
  · exact within_invalidAnswer liberal_stocking i _ _
  · rename_i id input both
    obtain ⟨_, _, -, fine, same⟩ := fine_of_map_seq both
    cases same
    have sound := sound_of_productOfBody (settled_bodyObject settled) fine
    refine .bind (within_changeProducts fun store stocked => ?_) fun product => ?_
    · split
      · exact stocked_update stocked sound _
      · exact stocked
    · split
      · exact .pure _
      · exact .fail _

variable (i) in
theorem within_deleteProductHandler : Handling.Within Contract.stocking (deleteProductHandler s i) := by
  unfold deleteProductHandler
  split
  · exact within_invalidAnswer liberal_stocking i _ _
  · refine .bind (within_changeProducts fun store stocked => ?_) fun there => ?_
    · split
      · exact stocked_remove stocked _
      · exact stocked
    · split
      · exact .bind (within_caller i) fun p => .bind (.log liberal_stocking _) fun _ => .pure _
      · exact .fail _

end Writers

/-- **Every request keeps the products sound.** -/
theorem within_productService (s : Service) (r : Request) :
    Task.Within Contract.stocking (fun _ => True) (respond s ServiceName.productService.endpoints r) := by
  refine within_respond liberal_stocking s r fun e member i read => ?_
  have settled := settled_of_readBody read
  simp only [ServiceName.endpoints, List.mem_cons, List.not_mem_nil, or_false] at member
  rcases member with rfl | rfl | rfl | rfl | rfl | rfl | rfl | rfl
  · exact within_healthHandler liberal_stocking s i
  · exact within_readyHandler liberal_stocking s i
  · exact within_metricsHandler liberal_stocking s i
  · exact within_listProductsHandler liberal_stocking s i
  · exact within_getProductHandler liberal_stocking s i
  · exact within_createProductHandler s settled
  · exact within_updateProductHandler s settled
  · exact within_deleteProductHandler s i

/-! ### In a run -/

namespace Site

/-- **At each move of a run all products are sound,** if they are at its start. -/
theorem stocked_before {s : Service} {stores : ServiceState} (stocked : Stocked stores.products)
    (events : List Event) :
    ∀ m ∈ moves s ServiceName.productService.endpoints { state := stores } events, Stocked m.before.products := by
  have anything : ∀ e ∈ events, e.Gives Contract.stocking.relies := by
    intro e _
    cases e with
    | arrives r => trivial
    | answered n answer => exact fun _ => trivial
  refine holds_before (fun st => Stocked st.products) stocked ?_
  exact keeps_of_mem_moves (within_productService s) (sound_start stores) (heard_start _ stores) anything

end Site

end BearerGate
