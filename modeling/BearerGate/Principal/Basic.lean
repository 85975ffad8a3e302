import BearerGate.Principal.Roles
import BearerGate.Token.Validity

/-!
# The caller

A principal is who a validated token speaks for.  A route's **requirement** is the set of roles of which
the principal needs one; the empty requirement asks for nothing but a valid token.
-/

namespace BearerGate

/-- **The caller that a token speaks for.** -/
structure Principal where
  subject : String
  username : String
  /-- Empty if the token names none. -/
  email : String
  roles : List String
  expiresAt : Instant
  deriving DecidableEq, Repr

/-- A claim that is a non-empty string. -/
def textClaim? (claims : Members) (name : String) : Option String :=
  match (Table.get? claims name).bind Json.string? with
  | some s => if s = "" then none else some s
  | none => none

/-- **The principal of claims.**  Without a preferred name the subject serves as the name. -/
def Claims.principal (c : Claims) (rolesSetting : String) : Principal where
  subject := c.subject
  username := (textClaim? c.raw "preferred_username").getD c.subject
  email := (textClaim? c.raw "email").getD ""
  roles := resolveRoles (.object c.raw) (rolePaths rolesSetting)
  expiresAt := c.expiresAt

/-- **What a route asks of its caller:** one of these roles, or only a valid token if there are none. -/
structure Requirement where
  roles : List String
  deriving DecidableEq, Repr

/-- Any caller with a valid token. -/
def Requirement.anyone : Requirement := ⟨[]⟩

/-- Any caller with one of the given roles. -/
def Requirement.anyOf (roles : List String) : Requirement := ⟨Text.distinct roles⟩

/-- **Whether roles meet a requirement.** -/
def Requirement.allows (r : Requirement) (roles : List String) : Bool :=
  r.roles.isEmpty || r.roles.any roles.contains

end BearerGate
