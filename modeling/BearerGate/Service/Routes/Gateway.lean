import BearerGate.Service.Basic

/-!
# The front door

The gateway passes requests on to the service that the first segment after `/api/` is mapped to, with
the caller's own token, and passes the answer back: its status, its body and its content type, and the
two headers by which a service says why it refused and when to come again.
-/

namespace BearerGate

/-- The headers of an answer that are passed back besides its content type. -/
def relayedHeaders : List String := ["www-authenticate", "retry-after"]

/-- A path without the start `/api` and one slash after it. -/
def withoutApi (path : List Char) : List Char :=
  match Text.dropStart? "/api".toList path with
  | some ('/' :: rest) => rest
  | some rest => rest
  | none => path

/-- **The first segment after `/api/`** of a target, before its query. -/
def segmentOf (target : String) : String :=
  String.ofList ((withoutApi (target.toList.takeWhile (· ≠ '?'))).takeWhile (· ≠ '/'))

/-- The answer that is passed back. -/
def relayedAnswer (r : ServiceResponse) : Answer where
  status := r.status
  headers :=
    ((r.contentType?.bind fun t => if t = "" then none else some ("content-type", t)).toList) ++
      relayedHeaders.filterMap fun name => (r.headers.get? name).map (name, ·)
  payload :=
    match r.body with
    | .null => .text ""
    | .string s => .text s
    | j => .json j

/-- The body that is passed on: none if there is none. -/
def relayedBody (j : Json) : Option Json :=
  match j with
  | .null => none
  | j => some j

/-- **Passing a request on.** -/
def relayHandler : Handler := fun s i => do
  let segment := segmentOf i.request.target
  match Table.get? s.config.gatewayRoutes segment with
  | none => Handling.fail (.http (.notFound "Route" ("/api/" ++ segment)))
  | some target =>
    let response ← callService s i.context
      { service := target.name, path := i.request.target, method := i.request.method
        body := relayedBody i.body }
    Handling.log (.make .debug "Relayed request"
      [("target", some (.string target.name)), ("status", some (.nat response.status))])
    pure (relayedAnswer response)

end BearerGate
