import BearerGate.Json.Basic

/-!
# JSON values can be compared

Whether two JSON values are the same is found out by comparing them part by part (`same_eq_true_iff`).  So what a
fixed text stands for can be decided.
-/

namespace BearerGate.Json

mutual

/-- Compares two values. -/
def same : Json → Json → Bool
  | .null, .null => true
  | .bool a, .bool b => a == b
  | .number a, .number b => a == b
  | .string a, .string b => a == b
  | .array xs, .array ys => sameElements xs ys
  | .object ms, .object ns => sameMembers ms ns
  | _, _ => false

/-- Compares the elements of two arrays. -/
def sameElements : List Json → List Json → Bool
  | [], [] => true
  | x :: xs, y :: ys => same x y && sameElements xs ys
  | _, _ => false

/-- Compares the members of two objects, which stand in order. -/
def sameMembers : List (String × Json) → List (String × Json) → Bool
  | [], [] => true
  | (name, v) :: ms, (name', w) :: ns => name == name' && (same v w && sameMembers ms ns)
  | _, _ => false

end

mutual

/-- **Only equal values are the same.** -/
theorem same_eq_true_iff : ∀ v w, same v w = true ↔ v = w
  | .null, w => by cases w <;> simp [same]
  | .bool a, w => by cases w <;> simp [same]
  | .number a, w => by cases w <;> simp [same]
  | .string a, w => by cases w <;> simp [same]
  | .array xs, w => by
    cases w with
    | array ys => simp [same, sameElements_eq_true_iff xs ys]
    | _ => simp [same]
  | .object ms, w => by
    cases w with
    | object ns => simp [same, sameMembers_eq_true_iff ms ns]
    | _ => simp [same]

theorem sameElements_eq_true_iff : ∀ xs ys, sameElements xs ys = true ↔ xs = ys
  | [], ys => by cases ys <;> simp [sameElements]
  | x :: xs, [] => by simp [sameElements]
  | x :: xs, y :: ys => by simp [sameElements, same_eq_true_iff x y, sameElements_eq_true_iff xs ys]

theorem sameMembers_eq_true_iff : ∀ ms ns, sameMembers ms ns = true ↔ ms = ns
  | [], ns => by cases ns <;> simp [sameMembers]
  | (name, v) :: ms, [] => by simp [sameMembers]
  | (name, v) :: ms, (name', w) :: ns => by
    simp [sameMembers, same_eq_true_iff v w, sameMembers_eq_true_iff ms ns, and_assoc]

end

instance : DecidableEq Json := fun v w => decidable_of_iff (same v w = true) (same_eq_true_iff v w)

end BearerGate.Json
