import BearerGate.Crypto.Sha2

/-!
# Signing algorithms

The nine algorithms that a token may be signed with: RSA with fixed padding (`RS`), RSA with salted
padding (`PS`) and ECDSA (`ES`), each with SHA-256, SHA-384 or SHA-512.
-/

namespace BearerGate

/-- **A supported signing algorithm.** -/
inductive SigningAlgorithm where
  | rs256 | rs384 | rs512
  | ps256 | ps384 | ps512
  | es256 | es384 | es512
  deriving DecidableEq, Repr

namespace SigningAlgorithm

/-- All of them, in the order in which they are listed to a reader. -/
def all : List SigningAlgorithm :=
  [rs256, rs384, rs512, ps256, ps384, ps512, es256, es384, es512]

def name : SigningAlgorithm → String
  | rs256 => "RS256"
  | rs384 => "RS384"
  | rs512 => "RS512"
  | ps256 => "PS256"
  | ps384 => "PS384"
  | ps512 => "PS512"
  | es256 => "ES256"
  | es384 => "ES384"
  | es512 => "ES512"

/-- **The algorithm of a name,** if it is supported. -/
def ofName? (s : String) : Option SigningAlgorithm := all.find? (·.name = s)

theorem mem_all (a : SigningAlgorithm) : a ∈ all := by cases a <;> decide

theorem name_injective {a b : SigningAlgorithm} (h : a.name = b.name) : a = b := by
  cases a <;> cases b <;> simp_all [name]

theorem ofName?_eq_some_iff {s : String} {a : SigningAlgorithm} :
    ofName? s = some a ↔ a.name = s := by
  constructor
  · intro h
    simpa using List.find?_some h
  · intro h
    cases hf : ofName? s with
    | none =>
      have := List.find?_eq_none.1 hf a (mem_all a)
      simp [h] at this
    | some b =>
      have hb : b.name = s := by simpa using List.find?_some hf
      exact congrArg some (name_injective (hb.trans h.symm))

end SigningAlgorithm

end BearerGate
