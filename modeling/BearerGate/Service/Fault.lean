import BearerGate.Json.Basic
import BearerGate.Rejection

/-!
# What can go wrong in a handler

A handler ends with a reply or with a fault.  `Fault` has one constructor for each kind, and what each
kind needs to be reported; how it is answered is decided where replies are made.
-/

namespace BearerGate

/-- **A fault with a status of its own.** -/
structure HttpError where
  status : Nat
  code : String
  message : String
  details : Option Json := none

/-- Something that was asked for is not there. -/
def HttpError.notFound (resource id : String) : HttpError where
  status := 404
  code := "resource.not_found"
  message := resource ++ " not found: " ++ id
  details := some (.record [("resource", some (.string resource))])

/-- **A call on another service that failed,** with the status of its answer if that was the trouble. -/
structure DownstreamError where
  service : String
  message : String
  status : Option Nat := none
  deriving DecidableEq, Repr

def DownstreamError.code : String := "downstream.failed"

/-- **How a handler fails.** -/
inductive Fault where
  | auth (e : AuthError)
  | http (e : HttpError)
  | downstream (e : DownstreamError)
  /-- The request could not be read; the status is below 500. -/
  | unreadable (status : Nat) (message : String)
  /-- Anything else. -/
  | crash (message : String)

end BearerGate
