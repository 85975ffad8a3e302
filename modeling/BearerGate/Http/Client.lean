import BearerGate.Http.Message
import BearerGate.Number.Decimal
import BearerGate.Url.Basic

/-!
# What clients send

A client does not send everything it is asked to.  The method has to be a known one, in upper case or in
lower case throughout; the address has to be one, on its own or on the client's own host, and only its
path and its query go out, without dot segments and without an empty query.  A body goes out together
with its length.
-/

namespace BearerGate

/-- The methods there are. -/
def knownMethods : List String :=
  ["ACL", "BIND", "CHECKOUT", "CONNECT", "COPY", "DELETE", "GET", "HEAD", "LINK", "LOCK", "M-SEARCH",
    "MERGE", "MKACTIVITY", "MKCALENDAR", "MKCOL", "MOVE", "NOTIFY", "OPTIONS", "PATCH", "POST", "PROPFIND",
    "PROPPATCH", "PURGE", "PUT", "REBIND", "REPORT", "SEARCH", "SOURCE", "SUBSCRIBE", "TRACE", "UNBIND",
    "UNLINK", "UNLOCK", "UNSUBSCRIBE"]

/-- **The method that is sent,** in upper case. -/
def sentMethod? (method : String) : Option String :=
  knownMethods.find? fun known => method = known || method = Text.lower known

/-- The target of an address: its path, and its query unless that is empty. -/
def targetOf (u : Url) : String :=
  u.pathText ++ (match u.query with
    | some query => if query = "" then "" else "?" ++ query
    | none => "")

/-- The base that clients resolve addresses against. -/
def clientBase : String := "http://localhost"

/-- **The target that is sent** for an address. -/
def sentTarget? (address : String) : Option String :=
  let url :=
    if address = "" then none
    else if "//".toList.isPrefixOf address.toList then Url.parse? (clientBase ++ address) none
    else Url.parse? address (Url.parse? clientBase none)
  url.map targetOf

/-- Why a client does not send a request. -/
inductive SendRefusal where
  | unknownMethod
  | noAddress
  deriving DecidableEq, Repr

def SendRefusal.methodMessage : String := "must be equal to one of the allowed values"

/-- A request with the length of its body, unless it says one itself or has none. -/
def Request.withLength (r : Request) : Request :=
  let body := r.body.getD ""
  if body = "" ∨ (r.header? "content-length").isSome then r
  else { r with headers := r.headers ++ [("content-length", toString body.utf8ByteSize)] }

/-- **The request that is sent.** -/
def Request.sent (r : Request) : Except SendRefusal Request :=
  match sentMethod? r.method, sentTarget? r.target with
  | none, _ => .error .unknownMethod
  | _, none => .error .noAddress
  | some method, some target => .ok ({ r with method, target } : Request).withLength

end BearerGate
