import BearerGate.Http.Message

/-!
# Requests from pages of other origins

Which pages of other origins may read the replies of a service, and the replies to **preflight**
requests, by which a browser asks beforehand.  Without a list of origins every origin is allowed; a list
with `*` allows all of them at once.

A preflight request ends here: it reaches neither the gate nor a handler.
-/

namespace BearerGate

/-- The origins that are allowed. -/
inductive AllowedOrigins where
  /-- Every origin, each named in the reply. -/
  | reflected
  /-- Every origin, by one star. -/
  | star
  | listed (origins : List String)
  deriving DecidableEq, Repr

namespace AllowedOrigins

/-- The origins of a setting. -/
def ofList (origins : List String) : AllowedOrigins :=
  if origins = [] then reflected
  else if origins.contains "*" then star
  else listed origins

/-- The origin that a reply names as allowed. -/
def granted? (a : AllowedOrigins) (origin : Option String) : Option String :=
  match a with
  | star => some "*"
  | reflected => origin
  | listed origins => origin.bind fun o => if origins.contains o then some o else none

end AllowedOrigins

/-- The headers that pages of other origins may read. -/
def exposedHeaders : String := "x-request-id, WWW-Authenticate, Retry-After"

/-- **The headers of every reply** to a request with a given origin. -/
def corsHeaders (a : AllowedOrigins) (origin : Option String) : List (String × String) :=
  (if a = .star then [] else [("vary", "Origin")]) ++
    ((a.granted? origin).map fun o => ("access-control-allow-origin", o)).toList ++
    [("access-control-expose-headers", exposedHeaders)]

def allowedMethods : String := "GET, POST, DELETE, PUT, PATCH, OPTIONS"

def allowedHeaders : String := "Authorization, Content-Type"

/-- **The answer to a preflight request.**  A request that names no origin or no method is refused. -/
def preflightAnswer (r : Request) : Answer :=
  if (r.filledHeader? "origin").isSome ∧ (r.filledHeader? "access-control-request-method").isSome then
    { status := noContent
      headers := [("access-control-allow-methods", allowedMethods),
        ("access-control-allow-headers", allowedHeaders)]
      payload := .text "" }
  else
    { status := 400
      headers := [("content-type", "text/plain")]
      payload := .text "Invalid Preflight Request" }

end BearerGate
