import BearerGate.Table
import BearerGate.Url.Basic

/-!
# Where services are reached

The registry is a fixed table from the names of services to the addresses of their instances.
-/

namespace BearerGate

/-- **The addresses of services.** -/
structure Registry where
  entries : Table Url

namespace Registry

/-- The registry of a table of names and texts; every text has to be an address. -/
def ofTable? (table : Table String) : Option Registry :=
  (table.mapM fun e => (Url.parse? e.2 none).map (e.1, ·)).map (⟨·⟩)

/-- **The address of a service.** -/
def resolve? (r : Registry) (service : String) : Option Url :=
  Table.get? r.entries service

/-- The message about a service that has no address. -/
def notFoundMessage (service : String) : String :=
  "No instance registered for service " ++ service

/-- The code of that message. -/
def notFoundCode : String := "service.not_found"

end Registry

end BearerGate
