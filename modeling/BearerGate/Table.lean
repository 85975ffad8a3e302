/-!
# Tables

A table is a list of names with values.  A value that is written under a name that is there takes the
place of the old one; under a new name it goes to the end.  So a table keeps the order in which its names
were first written, and has the value that was written last under each of them.

Some tables are visited in another order: names that are **indices**, decimals without leading zeros,
come first, in ascending order, and the others follow as they stand (`arrange`).
-/

namespace BearerGate

/-- **Names with values.** -/
abbrev Table (α : Type) : Type := List (String × α)

namespace Table

variable {α : Type}

/-- **The value under a name.** -/
def get? (t : Table α) (name : String) : Option α := (t.find? (·.1 = name)).map (·.2)

/-- Changes the value under a name in its place; a new name goes to the end. -/
def alter (t : Table α) (name : String) (f : Option α → α) : Table α :=
  if t.any (·.1 = name) then t.map fun e => if e.1 = name then (name, f (some e.2)) else e
  else t ++ [(name, f none)]

/-- **Writes a value under a name.** -/
def put (t : Table α) (name : String) (value : α) : Table α := alter t name fun _ => value

/-- Writes entries one after the other. -/
def putAll (t : Table α) (entries : List (String × α)) : Table α :=
  entries.foldl (fun t e => put t e.1 e.2) t

theorem get?_cons (e : String × α) (t : Table α) (name : String) :
    get? (e :: t) name = if e.1 = name then some e.2 else get? t name := by
  by_cases h : e.1 = name <;> simp [get?, h]

theorem get?_eq_none_iff {t : Table α} {name : String} :
    get? t name = none ↔ ∀ e ∈ t, e.1 ≠ name := by
  simp [get?]

/-- Changing the values under a name that is there changes what is found under it. -/
theorem get?_map_self (t : Table α) (name : String) (f : α → α) :
    get? (t.map fun e => if e.1 = name then (name, f e.2) else e) name = (get? t name).map f := by
  induction t with
  | nil => rfl
  | cons e t ih =>
    rw [List.map_cons, get?_cons, get?_cons, ih]
    by_cases h : e.1 = name <;> simp [h]

/-- It changes nothing under any other name. -/
theorem get?_map_of_ne (t : Table α) {name other : String} (f : α → α) (ne : other ≠ name) :
    get? (t.map fun e => if e.1 = name then (name, f e.2) else e) other = get? t other := by
  induction t with
  | nil => rfl
  | cons e t ih =>
    rw [List.map_cons, get?_cons, get?_cons, ih]
    by_cases h : e.1 = name
    · simp [h, ne.symm]
    · simp [h]

theorem get?_append (t u : Table α) (name : String) :
    get? (t ++ u) name = (get? t name).or (get? u name) := by
  cases h : t.find? (·.1 = name) <;> simp [get?, List.find?_append, h]

/-- **What is found under a name after a change of it.** -/
theorem get?_alter_self (t : Table α) (name : String) (f : Option α → α) :
    get? (alter t name f) name = some (f (get? t name)) := by
  unfold alter
  split
  · rename_i there
    rw [get?_map_self t name fun a => f (some a)]
    cases h : get? t name with
    | some a => rfl
    | none =>
      have absent := get?_eq_none_iff.1 h
      simp only [List.any_eq_true, decide_eq_true_eq] at there
      obtain ⟨e, member, same⟩ := there
      exact absurd same (absent e member)
  · rename_i absent
    have none_there : get? t name = none := by
      rw [get?_eq_none_iff]
      intro e member same
      exact absent (List.any_eq_true.2 ⟨e, member, by simp [same]⟩)
    rw [get?_append, none_there, get?_cons]
    simp

/-- **What is found under another name.** -/
theorem get?_alter_of_ne (t : Table α) {name other : String} (f : Option α → α) (ne : other ≠ name) :
    get? (alter t name f) other = get? t other := by
  unfold alter
  split
  · exact get?_map_of_ne t (fun a => f (some a)) ne
  · rw [get?_append, get?_cons]
    simp [ne.symm, get?]

theorem get?_put_self (t : Table α) (name : String) (value : α) :
    get? (put t name value) name = some value := get?_alter_self t name _

theorem get?_put_of_ne (t : Table α) {name other : String} (value : α) (ne : other ≠ name) :
    get? (put t name value) other = get? t other := get?_alter_of_ne t _ ne

/-! ### The order of visiting -/

/-- The index that a name is: a decimal below `2^32 - 1` without leading zeros. -/
def index? (name : String) : Option Nat :=
  match name.toList with
  | ['0'] => some 0
  | '0' :: _ => none
  | cs =>
    if cs ≠ [] ∧ cs.all Char.isDigit ∧ cs.length ≤ 10 then
      let n := cs.foldl (fun n c => n * 10 + (c.toNat - 48)) 0
      if n < 4294967295 then some n else none
    else none

/-- **The entries in the order of visiting.** -/
def arrange (t : Table α) : Table α :=
  let (indexed, named) := t.partition fun e => (index? e.1).isSome
  indexed.mergeSort (fun a b => (index? a.1).getD 0 ≤ (index? b.1).getD 0) ++ named

end Table

end BearerGate
