import BearerGate.Proofs.Json.Sent
import BearerGate.Proofs.Number.Whole
import BearerGate.Proofs.Service.Ownership
import BearerGate.Proofs.Service.Stocking

/-!
# What the product service offers

The order service reads the product service's answer with a check of its own, `ProductOffer.ofJson`.  This file
follows a product from the catalogue into an answer, through its text and into that check.  A sound product comes
through with its name and its stock as they are (`shows_product`).  Its price comes through if it is finite; an
infinite price has no JSON text, `null` stands in its place, and the product is no offer.

`Site.products_shown` puts that together over all runs of the product service, and
`Site.endless_price_shown` is a run in which a product is written with the price `1e400`, is shown under the status
200 ever after, and cannot be ordered.
-/

namespace BearerGate

open Number

/-! ### A product in an answer -/

/-- What an order takes from a product with a finite price. -/
def ProductInput.offer? (input : ProductInput) (id : Nat) : Option ProductOffer :=
  if input.price.isFinite then
    some { id := .ofNat id, name := input.name, price := input.price, stock := input.stock }
  else none

/-- **What whoever reads a product sees of it,** given what was said of it when it was written. -/
structure Product.Shows (p : Product) (seen : Json) (input : ProductInput) : Prop where
  written : p.value = input.members
  sound : input.Sound
  name : seen.stringMember? "name" = some input.name
  /-- The price is there as it is, or it is infinite and nothing stands in its place. -/
  price : input.price.isFinite = true ∧ seen.member? "price" = some (.number input.price) ∨
    input.price = .infinite false ∧ seen.member? "price" = some .null
  stock : seen.member? "stock" = some (.number input.stock)
  /-- The order service takes it for an offer exactly if its price is finite. -/
  offer : p.id < 2 ^ 53 → ProductOffer.ofJson seen = input.offer? p.id

section Products

variable {p : Product} {input : ProductInput}

/-- A product that was written under its id has the members that were said, and the id. -/
theorem toJson_of_members (written : p.value = input.members) :
    Product.toJson p = .object (input.members ++ [("id", .nat p.id)]) := by
  have new : (input.members.any fun e => e.1 = "id") = false := by
    simp [ProductInput.members]
  rw [Product.toJson, written, Table.put, Table.alter, new]
  rfl

/-- A sound product is a value as a reader gives it. -/
theorem settled_product (written : p.value = input.members) (sound : input.Sound) : (Product.toJson p).Settled := by
  have nodup : ["name", "description", "price", "stock", "id"].Nodup := by decide
  have plain : ∀ name ∈ ["name", "description", "price", "stock", "id"], Table.index? name = none := by decide
  rw [toJson_of_members written]
  refine .object (Json.ofMembers_eq_object nodup plain) fun m member => ?_
  simp only [ProductInput.members, List.cons_append, List.nil_append, List.mem_cons, List.not_mem_nil, or_false]
    at member
  rcases member with rfl | rfl | rfl | rfl | rfl
  · exact .string _
  · exact .string _
  · exact .number sound.price_held
  · exact .number sound.stock_held
  · exact .number (held_ofNat p.id)

/-- **What is sent of a sound product.** -/
theorem sent_product (written : p.value = input.members) (sound : input.Sound) :
    (Product.toJson p).sent = .object [("name", .string input.name), ("description", .string input.description),
      ("price", (Json.number input.price).sent), ("stock", .number input.stock), ("id", (Json.nat p.id).sent)] := by
  rw [toJson_of_members written, ← Json.sent_number (isFinite_of_isInteger sound.whole)]
  rfl

/-- **A sound product shows what was said of it.** -/
theorem shows_product (written : p.value = input.members) (sound : input.Sound) :
    p.Shows (Product.toJson p).sent input := by
  have id_sent : p.id < 2 ^ 53 → (Json.nat p.id).sent = .number (ofNat p.id) := by
    intro small
    refine Json.sent_number ?_
    rw [ofNat_of_small small]
    rfl
  rw [sent_product written sound]
  cases finite : input.price.isFinite with
  | true =>
    rw [Json.sent_number finite]
    refine ⟨written, sound, rfl, .inl ⟨finite, rfl⟩, rfl, fun small => ?_⟩
    rw [id_sent small, ProductInput.offer?, finite]
    rfl
  | false =>
    rw [Json.sent_number_of_not_finite finite]
    refine ⟨written, sound, rfl, .inr ⟨sound.price_eq finite, rfl⟩, rfl, fun small => ?_⟩
    rw [id_sent small, ProductInput.offer?, finite]
    rfl

end Products

/-! ### Answers -/

/-- **What a caller is told** of the products there are, who asks for all or for one as its id is spelled. -/
inductive Shown (products : List Product) (own : Reply) : Option String → Prop
  | all (text : Json.parse? own.text = some (.array (products.map fun p => (Product.toJson p).sent)))
      (each : ∀ p ∈ products, ∃ input, p.Shows (Product.toJson p).sent input) : Shown products own none
  /-- As the order service reads the reply, it gives that product's offer and nothing else. -/
  | one {spelling : String} {p : Product} {input : ProductInput} {sent : TransportReply}
      (spelled : Spells spelling p.id) (member : p ∈ products)
      (text : Json.parse? own.text = some (Product.toJson p).sent) (shows : p.Shows (Product.toJson p).sent input)
      (arrives : Deployment.transportReply own = some sent)
      (there : ¬CallEnd.Missing { reply := some sent })
      (gives : p.id < 2 ^ 53 → ∀ offer, CallEnd.Gives { reply := some sent } ProductOffer.ofJson offer ↔
        input.offer? p.id = some offer) : Shown products own (some spelling)

/-- What a request for products is routed to. -/
def productMatch : Option String → Match
  | none => ⟨.listProducts, []⟩
  | some spelling => ⟨.getProduct, [("id", spelling)]⟩

/-- **A request for products:** for all of them, or for the one under an id as it is spelled. -/
structure Request.AsksForProducts (r : Request) (wanted : Option String) : Prop where
  gets : r.method = "GET"
  routed : routed? ServiceName.productService.endpoints r = some (some (productMatch wanted))

/-! ### What the handlers do -/

section Handlers

variable {s : Service} {i : Inbound} {p : Principal} {u : ServiceState}

/-- The handler tells of all products as it finds them; then it writes a log entry. -/
theorem within_listProductsHandler_tells (known : i.principalOf = .ok p) :
    Step.Within (Contract.idle ServiceState fun _ _ => True)
      (fun result => result = .ok (.ofStatus 200 (.array (u.products.records.map Product.toJson)))) u
      ((listProductsHandler s i).run u) := by
  unfold listProductsHandler caller
  rw [known]
  dsimp only
  rw [Handling.run_bind_ofTask, Task.get_bind, pure_bind, Handling.log, Handling.run_bind_ofTask]
  exact Task.Within.bind (.log (liberal_idle _) _) (fun _ _ => .pure rfl) u

/-- What comes of a product that was looked for. -/
def productResult (id : Number) : Option Product → Except Fault Answer
  | none => .error (noProduct id)
  | some product => .ok (.ofStatus 200 (Product.toJson product))

theorem getProductHandler_run {n : Number} {id : Nat} (fine : idParameter i = .fine n) (whole : n.toNat? = some id) :
    (getProductHandler s i).run u = .done u (productResult n (u.products.records.find? (·.id = id))) := by
  have looked_up : n.toNat?.bind u.products.get? = u.products.records.find? (·.id = id) := by
    rw [whole]
    rfl
  unfold getProductHandler
  rw [fine]
  dsimp only
  rw [Handling.run_bind_ofTask, Task.get_bind, looked_up]
  cases u.products.records.find? (·.id = id) <;> rfl

end Handlers

/-! ### The whole way -/

section Way

variable {u : Service} {r : Request} {wanted : Option String} {arrival last : ServiceState}
  {turns : List (Turn ServiceState)} {own : Reply}

/-- A sound product that is sent under its id is shown. -/
theorem shown_of_sent {p : Product} {input : ProductInput} {spelling id : String} {products : List Product}
    (gets : r.method = "GET") (deliverable : r.Deliverable) (id_fine : isReplyHeader ("x-request-id", id) = true)
    (written : p.value = input.members) (sound : input.Sound) (spelled : Spells spelling p.id) (member : p ∈ products)
    (reply : own = jsonReplyOf (u.outlet (some (productMatch (some spelling))) r id) 200 (Product.toJson p)) :
    Shown products own (some spelling) := by
  have settled := settled_product written sound
  have shows := shows_product written sound
  obtain ⟨sent, arrives, status, typed, text⟩ :=
    exists_transportReply (s := u) (m := some (productMatch (some spelling))) deliverable id_fine 200 (Product.toJson p)
  have plain : own.text = (Product.toJson p).render := by
    rw [reply, jsonReplyOf, shows_of_gets gets]
    rfl
  rw [← reply, plain, ← Json.render_sent] at text
  have read := readBody?_of_render (Json.settled_sent settled) (Json.allFinite_sent settled) typed text
  refine .one spelled member ?text shows (by rw [reply]; exact arrives) ?there fun small offer => ?gives
  case text =>
    rw [plain]
    exact Json.parse?_render_sent settled
  case there =>
    rintro ⟨reply', body, arrived, -, gone⟩
    cases arrived
    rw [status] at gone
    cases gone
  case gives =>
    constructor
    · rintro ⟨reply', body, there, read', -, shaped⟩
      cases there
      obtain rfl := Option.some.inj (read.symm.trans read')
      rw [← shows.offer small]
      exact shaped
    · intro offered
      exact ⟨sent, _, rfl, read, by rw [status]; rfl, (shows.offer small).trans offered⟩

/-- **A request for products that ends well** has found the products at one step, and tells of them. -/
theorem shown_of_ending (asks : r.AsksForProducts wanted)
    (ending : Ending u (some (productMatch wanted)) r arrival turns last own)
    (real : ∀ t ∈ turns, Real t.question t.answer) (deliverable : r.Deliverable) (success : own.status = 200) :
    ∃ found, Turning (steps arrival turns last) found found ∧
      (Stocked found.products → Shown found.products.records own wanted) := by
  have gets := asks.gets
  cases ending with
  | @refused cause refusal unchanging uncalled =>
    have listed := refusal.status_mem
    rw [success] at listed
    exact absurd listed (by decide)
  | @handled caller ruling front ran back found v result parts vouched known token numbered id_fine entry uncalled path
      sent =>
    obtain ⟨exit, -⟩ := depart_idle sent
    have real_part : ∀ t ∈ ran ++ back, Real t.question t.answer := fun t member => real t (by
      rw [parts]
      exact List.mem_append_right _ member)
    have real_ran : ∀ t ∈ ran, Real t.question t.answer := fun t member => real_part t (List.mem_append_left _ member)
    have real_back : ∀ t ∈ back, Real t.question t.answer :=
      fun t member => real_part t (List.mem_append_right _ member)
    suffices told : Unchanging (steps found ran v) ∧
        (Stocked found.products → Shown found.products.records own wanted) by
      refine ⟨found, ?_, told.2⟩
      rw [parts]
      exact turning_append entry (unchanging_append told.1 exit)
    rcases handled_cases path with ⟨f, faulty, -⟩ | ⟨body, answer, read, way, rfl⟩
    · rw [readBody_of_gets gets] at faulty
      cases faulty
    cases wanted with
    | none =>
      have known_here : (inboundOf (productMatch none) r ruling.context body).principalOf = .ok caller := known _ rfl
      have listed : ((listProductsHandler u (inboundOf (productMatch none) r ruling.context body)).run found).Reaches
          ran (.done v answer) := way
      have within := within_listProductsHandler_tells (s := u) (u := found) known_here
      obtain ⟨-, rfl⟩ := (within.of_reaches listed fun _ _ => trivial)
      have still : Unchanging (steps found ran v) :=
        fun p member => (keeps_of_reaches listed within (fun _ _ => trivial) p member).symm
      refine ⟨still, fun stocked => ?_⟩
      have settled : (Json.array (found.products.records.map Product.toJson)).Settled := by
        refine .array fun j member => ?_
        obtain ⟨p, there, rfl⟩ := List.mem_map.1 member
        obtain ⟨input, written, sound⟩ := stocked p there
        exact settled_product written sound
      obtain ⟨-, text⟩ := told_of_answered gets deliverable id_fine (by decide) sent
      refine .all ?_ fun p there => ?_
      · rw [text, Json.parse?_render_sent settled, Json.sent, Json.sentElements_eq_map, List.map_map]
        rfl
      · obtain ⟨input, written, sound⟩ := stocked p there
        exact ⟨input, shows_product written sound⟩
    | some spelling =>
      have looked : ((getProductHandler u (inboundOf (productMatch (some spelling)) r ruling.context body)).run
          found).Reaches ran (.done v answer) := way
      cases checked : idParameter (inboundOf (productMatch (some spelling)) r ruling.context body) with
      | faulty first others =>
        have invalid : getProductHandler u (inboundOf (productMatch (some spelling)) r ruling.context body) =
            invalidAnswer (inboundOf (productMatch (some spelling)) r ruling.context body) "Invalid product id"
              (first :: others) := by
          rw [getProductHandler, checked]
        rw [invalid] at looked
        obtain ⟨now, report, made, rfl⟩ := ((within_invalidAnswer_real _ _ _ found).of_reaches looked real_ran).2
        obtain ⟨status, -⟩ := told_of_answered gets deliverable id_fine (by decide) sent
        rw [success] at status
        cases status
      | fine n =>
        obtain ⟨id, spelled⟩ := spells_of_idParameter checked
        obtain rfl := (counts_of_bounded checked).1
        rw [getProductHandler_run checked spelled.1] at looked
        obtain ⟨rfl, rfl, rfl⟩ := eq_of_reaches_done looked
        refine ⟨unchanging_here found, fun stocked => ?_⟩
        cases first : found.products.records.find? (·.id = id) with
        | none =>
          rw [first] at sent
          have content : (noProduct (ofText ((inboundOf (productMatch (some spelling)) r ruling.context body).parameter
              "id"))).report.status ≠ noContent := by
            change 404 ≠ noContent
            decide
          have status : own.status = 404 := status_of_fault deliverable id_fine rfl content real_back sent
          rw [success] at status
          cases status
        | some p =>
          rw [first] at sent
          have member := List.mem_of_find?_eq_some first
          have named : p.id = id := by simpa using List.find?_some first
          obtain ⟨input, written, sound⟩ := stocked p member
          exact shown_of_sent gets deliverable id_fine written sound (by rw [named]; exact spelled) member
            (reply_of_answered deliverable id_fine (by decide) sent)

/-! ### Requests that nobody interrupts -/

variable {answers : (q : Ask) → q.Answer}

/-- A request that nobody interrupts keeps the products sound. -/
theorem stocked_played (u : Service) (r : Request) (answers : (q : Ask) → q.Answer) (arrival : ServiceState)
    (stocked : Stocked arrival.products) :
    Stocked ((respond u ServiceName.productService.endpoints r arrival).played answers).1.products :=
  (within_productService u r arrival).keeps_played answers (fun _ => trivial) stocked

/-- **A request for products that nobody interrupts** finds the products that there were when it came. -/
theorem shown_of_played (real : ∀ q, Real q (answers q)) (asks : r.AsksForProducts wanted)
    (deliverable : r.Deliverable) (stocked : Stocked arrival.products)
    (replied : ((respond u ServiceName.productService.endpoints r arrival).played answers).2 = some own)
    (success : own.status = 200) : Shown arrival.products.records own wanted := by
  have plain : r.method ≠ "OPTIONS" := by
    rw [asks.gets]
    decide
  have access : accessOf (some (productMatch wanted)) = .needs (required (some (productMatch wanted))) := by
    cases wanted <;> rfl
  have path := Step.reaches_played answers (respond u ServiceName.productService.endpoints r arrival)
  have heard := Step.answered_turnsPlayed answers (respond u ServiceName.productService.endpoints r arrival)
  have kept := Step.eq_of_unchanging_played answers (respond u ServiceName.productService.endpoints r arrival)
    (s := arrival)
  rw [replied] at path
  generalize (respond u ServiceName.productService.endpoints r arrival).turnsPlayed answers = turns at path heard kept
  generalize ((respond u ServiceName.productService.endpoints r arrival).played answers).1 = last at path kept
  rw [respond_of_routed asks.routed plain] at path
  have given : ∀ t ∈ turns, Real t.question t.answer := by
    intro t member
    rw [← heard t member]
    exact real t.question
  obtain ⟨own', same, ending⟩ := ending_of_passage (passage_of_reaches access path) given deliverable
  obtain rfl : own = own' := Option.some.inj same
  obtain ⟨found, turning, shown⟩ := shown_of_ending asks ending given deliverable success
  have still := unchanging_of_turning turning
  obtain ⟨front, back, split_up, -, -⟩ := turning
  obtain rfl : found = arrival := kept still (found, found) (by rw [split_up]; simp)
  exact shown stocked

end Way

/-! ### In the small shop -/

namespace SmallShop

/-- The service for products. -/
def catalogue : Service := service .productService "roles"

/-- What it starts with. -/
def filled : ServiceState := { products := .ofList ProductStore.defaults }

/-- A pass for the user `s` as an administrator. -/
def adminPass : String :=
  "eyJhbGciOiJSUzI1NiIsImtpZCI6ImsifQ." ++
    "eyJzdWIiOiJzIiwiaXNzIjoiaSIsImF1ZCI6ImEiLCJleHAiOjQwMDAwMDAwMDAsInJvbGVzIjpbImFkbWluIl19.AQID"

/-- A request of the administrator for a product whose price is too large for the format. -/
def writeVault : Request where
  method := "POST"
  target := "/api/products"
  headers := [("authorization", "Bearer " ++ adminPass), ("content-type", "application/json")]
  body := some "\x7b\"name\":\"Vault\",\"price\":1e400,\"stock\":1\x7d"

/-- What comes of it in a catalogue that was just filled. -/
def written : ServiceState × Option Reply :=
  (respond catalogue ServiceName.productService.endpoints writeVault filled).played (answers fun _ => none)

/-- What the user is told after that who asks for the product. -/
def told : Option Reply :=
  ((respond catalogue ServiceName.productService.endpoints (read "/api/products/3") written.1).played
    (answers fun _ => none)).2

-- By rewriting, because comparing the two sides would evaluate the run.
theorem told_eq : told =
    ((respond catalogue ServiceName.productService.endpoints (read "/api/products/3")
      ((respond catalogue ServiceName.productService.endpoints writeVault filled).played (answers fun _ => none)).1).played
        (answers fun _ => none)).2 := by
  rw [told, written]

/-- Whether the price that is kept of a product is finite. -/
def hasFinitePrice (p : Product) : Bool := ((Table.get? p.value "price").bind Json.number?).any isFinite

theorem asksForProducts_vault : (read "/api/products/3").AsksForProducts (some "3") := ⟨rfl, by cbv⟩

/-- The token of the administrator. -/
private def adminToken : Token where
  raw := adminPass
  header := [("alg", .string "RS256"), ("kid", .string "k")]
  payload := passPayload passExpiry ++ [("roles", .array [.string "admin"])]
  algorithm := "RS256"
  subject := "s"

/-- The payload is read from the pass, and the token is signed and has not expired. -/
private theorem adminPass_checked :
    Token.objectOf? "eyJzdWIiOiJzIiwiaXNzIjoiaSIsImF1ZCI6ImEiLCJleHAiOjQwMDAwMDAwMDAsInJvbGVzIjpbImFkbWluIl19" =
      some adminToken.payload ∧
    adminToken.verifies catalogue.gate.check shopKeyEntry = true ∧ Number.divNat 0 1000 < passExpiry + 0 := by
  decide +kernel

private theorem written_adminPass : Token.Written adminPass adminToken where
  same_text := rfl
  segments := ⟨"eyJhbGciOiJSUzI1NiIsImtpZCI6ImsifQ",
    "eyJzdWIiOiJzIiwiaXNzIjoiaSIsImF1ZCI6ImEiLCJleHAiOjQwMDAwMDAwMDAsInJvbGVzIjpbImFkbWluIl19", "AQID",
    by decide, by decide, by decide, by decide, objectOf?_passHeader, adminPass_checked.1⟩
  algorithm := rfl
  subject := rfl
  subject_ne := show "s" ≠ "" by decide

private theorem accepted_adminPass :
    Token.Accepted catalogue.gate.validator catalogue.gate.check adminToken "k" shopKeyEntry 0 where
  named := rfl
  accepted := List.mem_singleton_self _
  keyId_there := rfl
  keyId_ne := by decide
  signature := adminPass_checked.2.1
  expiry := ⟨passExpiry, rfl, adminPass_checked.2.2⟩
  notBefore := by
    intro nbf there
    cases there
  issuer := rfl
  audience := .inl rfl

/-- The administrator is let in to write. -/
private theorem written_eq : written =
    ((some <$> letIn catalogue (some ⟨.createProduct, []⟩) writeVault
      (admission (answers fun _ => none) catalogue.gate writeVault adminToken)
      (adminToken.claims.principal "roles") : Task _ _) filled).played (answers fun _ => none) := by
  have routed : routed? ServiceName.productService.endpoints writeVault = some (some ⟨.createProduct, []⟩) := by
    cbv
  have own : bearerToken? (writeVault.header? "authorization") = some adminPass := by decide +kernel
  have found : answers (fun _ => none) (.key "k") = .found shopKeyEntry := rfl
  exact played_respond routed (by decide) rfl own written_adminPass found accepted_adminPass (by decide +kernel) filled

/-- The user is let in to read. -/
private theorem told_of_letIn : told =
    (((some <$> letIn catalogue (some (productMatch (some "3"))) (read "/api/products/3")
      (admission (answers fun _ => none) catalogue.gate (read "/api/products/3") (passToken pass passExpiry))
      ((passToken pass passExpiry).claims.principal "roles") : Task _ _) written.1).played (answers fun _ => none)).2 := by
  have routed := asksForProducts_vault.routed
  rw [told]
  exact congrArg Prod.snd (played_passToken (fun _ => none) written_pass (accepted_pass _ _) routed (by decide) rfl
    (bearerToken?_read _) written.1)

/-- The product is written with an infinite price, and it is shown. -/
theorem vault_shown : written.2.map Reply.status = some 201 ∧
    written.1.products.records.map (fun p => (p.id, hasFinitePrice p)) = [(1, true), (2, true), (3, false)] ∧
    told.map Reply.status = some 200 := by
  rw [told_of_letIn, written_eq]
  decide +kernel

/-- The text names one product. -/
theorem eq_three_of_spells {id : Nat} (spelled : Spells "3" id) : id = 3 := by
  have three : (ofText "3").toNat? = some 3 := by decide +kernel
  exact Option.some.inj (spelled.1.symm.trans three)

end SmallShop

namespace Site

/-- **The product service tells of sound products only.**  In every run from a catalogue of sound products, whatever
is written on the way, a request for products that ends with 200 has found the catalogue at one of its moves, which
changes nothing, and tells of the products there.  Each has a name that is filled and trimmed, a price that is not
negative, and a stock that is a whole number and not negative; read from the text, each passes the order service's
check exactly if its price is finite. -/
theorem products_shown (u : Service) {stores : ServiceState} (stocked : Stocked stores.products) {events : List Event}
    (real : ∀ e ∈ events, e.Gives Real) {n : Nat} {v : Visit} {wanted : Option String} {last : ServiceState}
    {own : Reply}
    (there : (after u ServiceName.productService.endpoints { state := stores } events).visits[n]? = some v)
    (asks : v.request.AsksForProducts wanted) (deliverable : v.request.Deliverable)
    (ended : v.standing = .done last (some own)) (success : own.status = 200) :
    ∃ earlier move later,
      moves u ServiceName.productService.endpoints { state := stores } events = earlier ++ move :: later ∧
        move.visit = n ∧ move.after = move.before ∧ Shown move.before.products.records own wanted := by
  obtain ⟨travels, heard, taken⟩ := visit_of_after real there
  have plain : v.request.method ≠ "OPTIONS" := by
    rw [asks.gets]
    decide
  have access : accessOf (some (productMatch wanted)) = .needs (required (some (productMatch wanted))) := by
    cases wanted <;> rfl
  obtain ⟨own', same, ending⟩ := Visit.ending travels asks.routed plain access ended heard deliverable
  obtain rfl : own = own' := Option.some.inj same
  obtain ⟨found, ⟨front, back, split_up, -, -⟩, shown⟩ := shown_of_ending asks ending heard deliverable success
  have own_steps : steps v.arrival v.turns last =
      (movesOf n (moves u ServiceName.productService.endpoints { state := stores } events)).map Move.step := by
    rw [← taken, Visit.steps, ended]
    rfl
  rw [own_steps] at split_up
  obtain ⟨earlier, move, later, run, by_it, step, -, -⟩ := exists_move split_up
  obtain ⟨before, after_eq⟩ := Prod.ext_iff.1 step
  have before_eq : move.before = found := before
  refine ⟨earlier, move, later, run, by_it, Eq.trans after_eq before.symm, ?_⟩
  rw [before_eq]
  refine shown ?_
  rw [← before_eq]
  exact stocked_before stocked events move (by rw [run]; simp)

/-- In the small shop the administrator writes a product whose price is infinite, and after that the user is told of
it. -/
theorem products_shown_small_shop : ∃ events v own, (∀ e ∈ events, Event.Gives Real e) ∧
    (after SmallShop.catalogue ServiceName.productService.endpoints { state := SmallShop.filled } events).visits[1]? =
      some v ∧
    v.request = SmallShop.read "/api/products/3" ∧ own.status = 200 ∧
    ∃ earlier move later, moves SmallShop.catalogue ServiceName.productService.endpoints
        { state := SmallShop.filled } events = earlier ++ move :: later ∧
      move.visit = 1 ∧ move.after = move.before ∧ Shown move.before.products.records own (some "3") := by
  obtain ⟨first, more, v, v', given, -, -, -, visits, request, -, last, ended⟩ := exists_servingTwo
    SmallShop.catalogue ServiceName.productService.endpoints SmallShop.filled SmallShop.writeVault
    (SmallShop.read "/api/products/3") (SmallShop.answers fun _ => none)
  have shown := SmallShop.vault_shown.2.2
  rw [SmallShop.told_eq] at shown
  obtain ⟨own, replied, status⟩ := Option.map_eq_some_iff.1 shown
  have there : (after SmallShop.catalogue ServiceName.productService.endpoints { state := SmallShop.filled }
      (first ++ more)).visits[1]? = some v' := by
    rw [visits]
    rfl
  rw [replied] at ended
  have real := SmallShop.real_of_gives given
  exact ⟨first ++ more, v', own, real, there, request, status,
    products_shown SmallShop.catalogue stocked_defaults real there
      (by rw [request]; exact SmallShop.asksForProducts_vault) (by rw [request]; exact SmallShop.deliverable_read _)
      ended status⟩

/-- **A product that is written with the price `1e400` cannot be ordered.**  It is accepted with 201 and shown with
200, and whoever asks for it in an order is told 502, whatever the stock. -/
theorem endless_price_shown : ∃ own sent, SmallShop.written.2.map Reply.status = some 201 ∧
    SmallShop.told = some own ∧ own.status = 200 ∧ Deployment.transportReply own = some sent ∧
    ∀ {s : Service} {context : RequestContext} {r : OrderRequest} {user : OutboundCall × CallEnd} {name : String}
      {call : OutboundCall}, Named s context user name → Prepared s context (productRequest r.productId) call →
      Settling s context r [user, (call, { reply := some sent })] 502 none := by
  obtain ⟨accepted, kept, shown⟩ := SmallShop.vault_shown
  obtain ⟨own, replied, status⟩ := Option.map_eq_some_iff.1 shown
  have stocked : Stocked SmallShop.written.1.products := by
    rw [SmallShop.written]
    exact stocked_played _ _ _ SmallShop.filled stocked_defaults
  have answered := replied
  rw [SmallShop.told_eq] at answered
  cases shown_of_played (SmallShop.real_answers _) SmallShop.asksForProducts_vault (SmallShop.deliverable_read _) stocked
    answered status with
  | @one _ p input sent spelled member text shows arrives there gives =>
    have third : p.id = 3 := SmallShop.eq_three_of_spells spelled
    have finite_eq : SmallShop.hasFinitePrice p = input.price.isFinite := by
      rw [SmallShop.hasFinitePrice, shows.written]
      rfl
    have endless : input.price.isFinite = false := by
      have listed := List.mem_map_of_mem (f := fun p => (p.id, SmallShop.hasFinitePrice p)) member
      rw [kept, third, finite_eq] at listed
      simpa using listed
    refine ⟨own, sent, accepted, replied, status, arrives, fun named prepared => ?_⟩
    refine .offerless named prepared (fun offer given => ?_) there
    have offered := (gives (by rw [third]; decide) offer).1 given
    rw [ProductInput.offer?, endless] at offered
    cases offered

end Site

end BearerGate
