import BearerGate.Service.Basic

/-!
# Orders

Callers see and place orders of their own.  Placing an order asks the user service for the caller's name
and then the product service for the product, both with the caller's own token.  Only when both have
answered and the stock suffices is an order added, in one step; every other end leaves the orders as
they were.
-/

namespace BearerGate

/-- A request for an order. -/
structure OrderRequest where
  productId : Number
  quantity : Number
  deriving DecidableEq, Repr

/-- **The order that a body asks for:** two whole numbers above zero. -/
def OrderRequest.ofBody (body : Json) : Checked OrderRequest :=
  match body with
  | .object members =>
    let member := Table.get? members
    OrderRequest.mk <$>
      Checked.number [.name "productId"] [.whole, .positive] (member "productId") <*>
      Checked.number [.name "quantity"] [.whole, .positive] (member "quantity")
  | other => Checked.wrongKind [] "object" (some other)

/-- The name in the user service's answer, which also has to hold a mail address. -/
def userShape (j : Json) : Option String :=
  match j.stringMember? "username", j.stringMember? "email" with
  | some username, some _ => if username = "" then none else some username
  | _, _ => none

/-- What an order takes from the product service's answer. -/
structure ProductOffer where
  id : Number
  name : String
  price : Number
  stock : Number
  deriving DecidableEq, Repr

def ProductOffer.ofJson (j : Json) : Option ProductOffer := do
  let id ← (j.member? "id").bind Json.number?
  let name ← j.stringMember? "name"
  let price ← (j.member? "price").bind Json.number?
  let stock ← (j.member? "stock").bind Json.number?
  pure { id, name, price, stock }

/-- **What is ordered,** if the stock suffices. -/
def placeOrder (username : String) (r : OrderRequest) (offer : ProductOffer) :
    Except HttpError OrderInput :=
  if offer.stock < r.quantity then
    .error
      { status := 409, code := "order.insufficient_stock"
        message := "Insufficient stock for " ++ offer.name
        details := some (.object [("available", .number offer.stock), ("requested", .number r.quantity)]) }
  else
    .ok
      { username, productId := offer.id, productName := offer.name, productPrice := offer.price
        quantity := r.quantity, totalPrice := (offer.price * r.quantity).roundToHundredths }

def listOrdersHandler : Handler := fun _ i => do
  let p ← caller i
  let s ← Handling.ofTask Task.get
  pure (.ofJson (.array ((s.orders.listForUser p.username).map Order.toJson)))

def getOrderHandler : Handler := fun _ i =>
  match idParameter i with
  | .faulty first others => invalidAnswer i "Invalid order id" (first :: others)
  | .fine id => do
    let s ← Handling.ofTask Task.get
    match id.toNat?.bind s.orders.get? with
    | none => Handling.fail (.http (.notFound "Order" id.render))
    | some order =>
      let p ← caller i
      if sameOwner (Order.owner order) (some (.string p.username)) then
        pure (.ofJson (Order.toJson order))
      else
        Handling.fail (.http
          { status := 403, code := "order.forbidden", message := "Order belongs to another user" })

/-- The product that an order is for; a product that the product service does not have is missing here
too. -/
def fetchOffer (s : Service) (context : RequestContext) (productId : Number) :
    Handling ServiceState ProductOffer :=
  tryCatch
    (fetchResource s context "product-service" ("/api/products/" ++ productId.render) ProductOffer.ofJson)
    fun
      | .downstream e =>
        if e.status = some 404 then Handling.fail (.http (.notFound "Product" productId.render))
        else Handling.fail (.downstream e)
      | f => Handling.fail f

/-- **Placing an order.** -/
def createOrderHandler : Handler := fun s i =>
  match OrderRequest.ofBody i.bodyObject with
  | .faulty first others => invalidAnswer i "Validation failed" (first :: others)
  | .fine r => do
    let username ← fetchResource s i.context "user-service" "/api/users/me" userShape
    let offer ← fetchOffer s i.context r.productId
    match placeOrder username r offer with
    | .error e => Handling.fail (.http e)
    | .ok input =>
      let now ← Handling.ofTask Task.time
      let placed ← Handling.ofTask (Task.modifyGet fun s =>
        let (orders, placed) := s.orders.place input.members now
        ({ s with orders }, placed))
      match placed with
      | none => Handling.fail (.crash Instant.invalidMessage)
      | some order =>
        Handling.log (.make .info "Order created"
          [("orderId", some (.nat order.id)), ("username", some (.string input.username)),
            ("productId", some (.number r.productId))])
        pure (.ofStatus 201 (Order.toJson order))

end BearerGate
