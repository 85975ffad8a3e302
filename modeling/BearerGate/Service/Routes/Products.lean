import BearerGate.Service.Basic

/-!
# Products

Everyone with a token can read the catalogue; only administrators can change it.  Nothing is written
before the body has been checked: a product has a name that is not blank, a price that is not negative,
and a whole stock that is not negative.
-/

namespace BearerGate

/-- **What a body says about a product.** -/
def productOfBody (body : Json) : Checked ProductInput :=
  match body with
  | .object members =>
    let member := Table.get? members
    let description : Checked String :=
      match member "description" with
      | none => .fine ""
      | value => Checked.text [.name "description"] .fine value
    ProductInput.mk <$>
      Checked.text [.name "name"] (fun s => Checked.sized [.name "name"] 1 none (Text.trim s))
        (member "name") <*>
      description <*>
      Checked.number [.name "price"] [.nonnegative] (member "price") <*>
      Checked.number [.name "stock"] [.whole, .nonnegative] (member "stock")
  | other => Checked.wrongKind [] "object" (some other)

/-- A change of the catalogue. -/
def changeProducts {α : Type} (f : ProductStore → ProductStore × α) : Handling ServiceState α :=
  Handling.ofTask (Task.modifyGet fun s => let (products, a) := f s.products; ({ s with products }, a))

/-- The fault of a product that is not there. -/
def noProduct (id : Number) : Fault := .http (.notFound "Product" id.render)

def listProductsHandler : Handler := fun _ i => do
  let s ← Handling.ofTask Task.get
  let p ← caller i
  Handling.log (.make .info "GET /products"
    [("username", some (.string p.username)), ("total", some (.nat s.products.list.length))])
  pure (.ofJson (.array (s.products.list.map Product.toJson)))

def getProductHandler : Handler := fun _ i =>
  match idParameter i with
  | .faulty first others => invalidAnswer i "Invalid product id" (first :: others)
  | .fine id => do
    let s ← Handling.ofTask Task.get
    match id.toNat?.bind s.products.get? with
    | some p => pure (.ofJson (Product.toJson p))
    | none => Handling.fail (noProduct id)

def createProductHandler : Handler := fun _ i =>
  match productOfBody i.bodyObject with
  | .faulty first others => invalidAnswer i "Validation failed" (first :: others)
  | .fine input => do
    let product ← changeProducts fun s => s.create input.members
    let p ← caller i
    Handling.log (.make .info "POST /products"
      [("admin", some (.string p.username)), ("productId", some (.nat product.id))])
    pure (.ofStatus 201 (Product.toJson product))

def updateProductHandler : Handler := fun _ i =>
  match (·, ·) <$> idParameter i <*> productOfBody i.bodyObject with
  | .faulty first others => invalidAnswer i "Validation failed" (first :: others)
  | .fine (id, input) => do
    let product ← changeProducts fun s =>
      match id.toNat? with
      | some n => s.update n input.members
      | none => (s, none)
    match product with
    | some product => pure (.ofJson (Product.toJson product))
    | none => Handling.fail (noProduct id)

def deleteProductHandler : Handler := fun _ i =>
  match idParameter i with
  | .faulty first others => invalidAnswer i "Invalid product id" (first :: others)
  | .fine id => do
    let there ← changeProducts fun s =>
      match id.toNat? with
      | some n => s.remove n
      | none => (s, false)
    if there then
      let p ← caller i
      Handling.log (.make .info "DELETE /products/:id"
        [("admin", some (.string p.username)), ("productId", some (.number id))])
      pure (.ofJson (.object [("message", .string "Product deleted successfully"),
        ("id", .string id.render)]))
    else Handling.fail (noProduct id)

end BearerGate
