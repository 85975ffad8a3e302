import BearerGate.Json.Basic
import BearerGate.Store.Numbered
import BearerGate.Table
import BearerGate.Time.Instant

/-!
# Orders

Orders are only ever added.  The first has the id 1 and each later one the next id.  An order knows when
it was placed; at a time that is no instant none can be placed, though its id is gone.
-/

namespace BearerGate

/-- What an order is about. -/
structure OrderInput where
  username : String
  productId : Number
  productName : String
  productPrice : Number
  quantity : Number
  totalPrice : Number
  deriving DecidableEq, Repr

def OrderInput.members (o : OrderInput) : Members :=
  [("username", .string o.username), ("productId", .number o.productId),
    ("productName", .string o.productName), ("productPrice", .number o.productPrice),
    ("quantity", .number o.quantity), ("totalPrice", .number o.totalPrice)]

/-- What is kept of an order besides its id. -/
structure OrderRecord where
  members : Members
  createdAt : String

/-- **An order.** -/
abbrev Order : Type := Numbered OrderRecord

namespace Order

/-- Whose order it is. -/
def owner (o : Order) : Option Json := Table.get? o.value.members "username"

/-- An order with its id and its time, in place of those that were said of it. -/
def toJson (o : Order) : Json :=
  .object (Table.put (Table.put o.value.members "id" (.nat o.id)) "createdAt" (.string o.value.createdAt))

end Order

/-- Whether two owners are the same one; only values without parts can be. -/
def sameOwner : Option Json → Option Json → Bool
  | none, none => true
  | some .null, some .null => true
  | some (.bool a), some (.bool b) => a = b
  | some (.number a), some (.number b) => a.numEq b
  | some (.string a), some (.string b) => a = b
  | _, _ => false

/-- **All orders so far.** -/
abbrev OrderStore : Type := NumberedStore OrderRecord

namespace OrderStore

/-- The orders of one owner in the order of their creation. -/
def listFor (s : OrderStore) (owner : Option Json) : List Order :=
  s.records.filter fun o => sameOwner (Order.owner o) owner

/-- The orders of one user. -/
def listForUser (s : OrderStore) (username : String) : List Order := s.listFor (some (.string username))

/-- **Places an order** at a time in milliseconds. -/
def place (s : OrderStore) (members : Members) (clock : Number) : OrderStore × Option Order :=
  match (Instant.ofMillis clock).text? with
  | some createdAt =>
    let (s, order) := s.create ⟨members, createdAt⟩
    (s, some order)
  | none => (s.skipId, none)

end OrderStore

end BearerGate
