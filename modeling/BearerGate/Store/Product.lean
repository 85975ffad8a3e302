import BearerGate.Json.Basic
import BearerGate.Store.Numbered
import BearerGate.Table

/-!
# The product catalogue

A product of the catalogue is what was said about it, under a number.  What is said about a product over
the network has four members; a catalogue that is filled beforehand may know other things as well.
-/

namespace BearerGate

/-- What is said about a product. -/
structure ProductInput where
  name : String
  description : String
  price : Number
  stock : Number
  deriving DecidableEq, Repr

def ProductInput.members (p : ProductInput) : Members :=
  [("name", .string p.name), ("description", .string p.description), ("price", .number p.price),
    ("stock", .number p.stock)]

/-- **A product of the catalogue.** -/
abbrev Product : Type := Numbered Members

/-- A product with its id, in place of one that was said of it. -/
def Product.toJson (p : Product) : Json := .object (Table.put p.value "id" (.nat p.id))

/-- **The catalogue.** -/
abbrev ProductStore : Type := NumberedStore Members

namespace ProductStore

/-- What a catalogue starts with if nothing else is said. -/
def defaultInputs : List ProductInput :=
  [{ name := "Laptop", description := "High-performance laptop"
     price := .ofDecimal false 99999 (-2), stock := 10 },
    { name := "Mouse", description := "Wireless mouse", price := .ofDecimal false 2999 (-2), stock := 50 }]

/-- What is said about the products that a catalogue starts with. -/
def defaults : List Members := defaultInputs.map ProductInput.members

end ProductStore

end BearerGate
