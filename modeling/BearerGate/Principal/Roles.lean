import BearerGate.Json.Basic
import BearerGate.Text.Blank

/-!
# Roles in claims

The roles of a caller stand somewhere in the claims; a **role path** says where.  It is a list of steps
with points between them; each step goes from an object to its member of that name, and the step `*`
goes to every member.  At the end of a path stands one role, a string, or an array whose strings are
roles.  Arrays are never entered by a step, and an empty string is no role.

A setting may list several paths, with commas or bars between them.
-/

namespace BearerGate

/-- The separators between role paths. -/
def isPathSeparator (c : Char) : Bool := c = '|' || c = ','

/-- **The role paths of a setting:** the pieces between separators, trimmed, without blank ones, each
once and in the order of their first occurrence. -/
def rolePaths (setting : String) : List String :=
  Text.distinct (((Text.pieces isPathSeparator setting).map Text.trim).filter (· ≠ ""))

/-- The steps of a role path. -/
def pathSteps (path : String) : List String := Text.pieces (· = '.') path

/-- **The values that a path leads to,** in the order in which members are visited. -/
def valuesAt : (steps : List String) → Json → List Json
  | _, .null => []
  | [], value => [value]
  | step :: steps, .object members =>
    if step = "*" then members.flatMap fun m => valuesAt steps m.2
    else
      match Table.get? members step with
      | some value => valuesAt steps value
      | none => []
  | _ :: _, _ => []

/-- The roles that a value at the end of a path holds. -/
def rolesIn : Json → List String
  | .string role => if role = "" then [] else [role]
  | .array elements => (elements.filterMap Json.string?).filter (· ≠ "")
  | _ => []

/-- **The roles that claims hold** at the given paths, each once. -/
def resolveRoles (claims : Json) (paths : List String) : List String :=
  Text.distinct (paths.flatMap fun path => (valuesAt (pathSteps path) claims).flatMap rolesIn)

end BearerGate
