/-!
# Numbered records

A store keeps records under ids that it gives out in sequence, starting with 1, and never again: a record
that is removed leaves a gap.  Records stand in the order of their creation, and replacing one keeps its
id and its place.
-/

namespace BearerGate

/-- **A record under its id.** -/
structure Numbered (α : Type) where
  id : Nat
  value : α
  deriving DecidableEq, Repr

/-- **Records under ids,** with the next id that is given out. -/
structure NumberedStore (α : Type) where
  records : List (Numbered α) := []
  nextId : Nat := 1
  deriving DecidableEq, Repr

namespace NumberedStore

variable {α : Type}

/-- All records in the order of their creation. -/
def list (s : NumberedStore α) : List (Numbered α) := s.records

/-- **The record under an id.** -/
def get? (s : NumberedStore α) (id : Nat) : Option (Numbered α) := s.records.find? (·.id = id)

/-- Gives out an id without a record for it. -/
def skipId (s : NumberedStore α) : NumberedStore α := { s with nextId := s.nextId + 1 }

/-- **Adds a record** under the next id. -/
def create (s : NumberedStore α) (value : α) : NumberedStore α × Numbered α :=
  let record : Numbered α := ⟨s.nextId, value⟩
  ({ records := s.records ++ [record], nextId := s.nextId + 1 }, record)

/-- Replaces a record that is there. -/
def update (s : NumberedStore α) (id : Nat) (value : α) : NumberedStore α × Option (Numbered α) :=
  if (s.get? id).isSome then
    ({ s with records := s.records.map fun r => if r.id = id then ⟨id, value⟩ else r },
      some ⟨id, value⟩)
  else (s, none)

/-- Removes a record; says whether it was there. -/
def remove (s : NumberedStore α) (id : Nat) : NumberedStore α × Bool :=
  ({ s with records := s.records.filter (·.id ≠ id) }, (s.get? id).isSome)

/-- The store with the given records, created one after the other. -/
def ofList (values : List α) : NumberedStore α :=
  values.foldl (fun s value => (s.create value).1) {}

theorem get?_create (s : NumberedStore α) (value : α) (fresh : ∀ r ∈ s.records, r.id < s.nextId) :
    (s.create value).1.get? s.nextId = some ⟨s.nextId, value⟩ := by
  have absent : s.records.find? (·.id = s.nextId) = none := by
    rw [List.find?_eq_none]
    intro r member
    have := fresh r member
    simp only [decide_eq_true_eq]
    omega
  simp [create, get?, List.find?_append, absent]

end NumberedStore

end BearerGate
