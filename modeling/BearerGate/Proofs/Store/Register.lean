import Mathlib
import BearerGate.Proofs.Number.Whole
import BearerGate.Store.Product

/-!
# What a store of numbered records keeps

A store is asked to create, replace, remove, find and list records (`StoreCommand`).  Any number can be named as an id,
and one under which nothing is kept is answered with `missing`.

A `Register` says what a store has to answer without a list in it: what is kept under each number, and how many numbers
have been given out.  `Represents` relates the two: the records of the store are those that the register keeps under the
numbers from 1 on, in that order.  Every command keeps the relation and is answered alike on both sides
(`represents_perform`), for fewer than `2^53` records, because further on two counts can be one number.

What a register keeps and has given out is said by the history of the commands and their answers: under an id stands
what was last written there and not removed since (`standing`), and the ids that were given out are those that creating
has answered (`givenOut`).  `ProductStore.refines` puts both together for the catalogue.
-/

namespace BearerGate

open Number

variable {α : Type}

/-! ### Commands -/

/-- **What is asked of a store.**  Any number can be named as an id. -/
inductive StoreCommand (α : Type) where
  | create (value : α)
  | update (id : Number) (value : α)
  | remove (id : Number)
  | get (id : Number)
  | list
  deriving DecidableEq

/-- **What a store answers.**  A record comes with its id. -/
inductive StoreAnswer (α : Type) where
  | record (id : Number) (value : α)
  | removed
  | missing
  | all (records : List (Number × α))
  deriving DecidableEq

/-- Whether a command creates a record. -/
def StoreCommand.creates : StoreCommand α → Bool
  | .create _ => true
  | _ => false

/-- How many records some commands create. -/
def creations (cs : List (StoreCommand α)) : Nat := cs.countP StoreCommand.creates

/-- **A history:** commands, each with its answer. -/
abbrev Exchanges (α : Type) : Type := List (StoreCommand α × StoreAnswer α)

/-- The answer with a record that may be there. -/
def StoreAnswer.found : Option (Numbered α) → StoreAnswer α
  | some r => .record (.ofNat r.id) r.value
  | none => .missing

namespace NumberedStore

/-- **A store does what it is asked.** -/
def perform (s : NumberedStore α) : StoreCommand α → NumberedStore α × StoreAnswer α
  | .create value => ((s.create value).1, .found (some (s.create value).2))
  | .update id value =>
    match id.toNat? with
    | some n => ((s.update n value).1, .found (s.update n value).2)
    | none => (s, .missing)
  | .remove id =>
    match id.toNat? with
    | some n => ((s.remove n).1, if (s.remove n).2 then .removed else .missing)
    | none => (s, .missing)
  | .get id => (s, .found (id.toNat?.bind s.get?))
  | .list => (s, .all (s.list.map fun r => (.ofNat r.id, r.value)))

/-- One command after the other. -/
def play (s : NumberedStore α) : List (StoreCommand α) → NumberedStore α × Exchanges α
  | [] => (s, [])
  | c :: cs => (((s.perform c).1.play cs).1, (c, (s.perform c).2) :: ((s.perform c).1.play cs).2)

end NumberedStore

/-! ### Registers -/

/-- **A register:** what is kept under each number, and how many numbers have been given out. -/
structure Register (α : Type) where
  given : Nat := 0
  kept : Number → Option α := fun _ => none

namespace Register

/-- The numbers that have been given out, in the order in which they were. -/
def ids (g : Register α) : List Number := (List.range' 1 g.given).map .ofNat

/-- What is kept, each under its number, in the order in which the numbers were given out. -/
def records (g : Register α) : List (Number × α) := g.ids.filterMap fun id => (g.kept id).map (id, ·)

/-- Keeps something else under a number, or nothing.  Two numbers are compared by lemmas, not by computing them. -/
@[irreducible]
def put (g : Register α) (id : Number) (new : Option α) : Register α :=
  { g with kept := fun id' => if id' = id then new else g.kept id' }

@[simp]
theorem given_put (g : Register α) (id : Number) (new : Option α) : (g.put id new).given = g.given := by
  rw [put]

theorem kept_put (g : Register α) (id : Number) (new : Option α) (id' : Number) :
    (g.put id new).kept id' = if id' = id then new else g.kept id' := by
  rw [put]

/-- **What a register answers** and what it keeps then. -/
def step (g : Register α) : StoreCommand α → Register α × StoreAnswer α
  | .create value =>
    let id : Number := .ofNat (g.given + 1)
    ({ g.put id (some value) with given := g.given + 1 }, .record id value)
  | .update id value =>
    match g.kept id with
    | some _ => (g.put id (some value), .record id value)
    | none => (g, .missing)
  | .remove id =>
    match g.kept id with
    | some _ => (g.put id none, .removed)
    | none => (g, .missing)
  | .get id =>
    match g.kept id with
    | some value => (g, .record id value)
    | none => (g, .missing)
  | .list => (g, .all g.records)

/-- One command after the other. -/
def play (g : Register α) : List (StoreCommand α) → Register α × Exchanges α
  | [] => (g, [])
  | c :: cs => (((g.step c).1.play cs).1, (c, (g.step c).2) :: ((g.step c).1.play cs).2)

theorem given_step (g : Register α) (c : StoreCommand α) :
    (g.step c).1.given = g.given + if c.creates then 1 else 0 := by
  cases c with
  | create value => rfl
  | update id value | remove id | get id =>
    simp only [step]
    split <;> simp [StoreCommand.creates]
  | list => rfl

/-- The record that is kept under a count. -/
def record? (g : Register α) (k : Nat) : Option (Numbered α) := (g.kept (.ofNat k)).map (Numbered.mk k)

theorem record?_put_self (g : Register α) (n : Nat) (new : Option α) :
    (g.put (.ofNat n) new).record? n = new.map (Numbered.mk n) := by
  rw [record?, kept_put, if_pos rfl]

theorem record?_put_of_ne (g : Register α) {k n : Nat} (small : k < 2 ^ 53) (small' : n < 2 ^ 53) (new : Option α)
    (other : k ≠ n) : (g.put (.ofNat n) new).record? k = g.record? k := by
  rw [record?, kept_put, if_neg (mt (ofNat_inj small small') other), record?]

end Register

/-- **A store stands for a register:** its records are those that are kept, in the order of their numbers. -/
structure Represents (s : NumberedStore α) (g : Register α) : Prop where
  next : s.nextId = g.given + 1
  records : s.records = (List.range' 1 g.given).filterMap g.record?
  inside : ∀ id value, g.kept id = some value → ∃ k, 1 ≤ k ∧ k ≤ g.given ∧ id = .ofNat k

theorem represents_empty : Represents ({} : NumberedStore α) {} where
  next := rfl
  records := rfl
  inside _ _ none := nomatch none

namespace Represents

variable {s : NumberedStore α} {g : Register α}

theorem mem_records (represents : Represents s g) {r : Numbered α} :
    r ∈ s.records ↔ 1 ≤ r.id ∧ r.id ≤ g.given ∧ g.kept (.ofNat r.id) = some r.value := by
  rw [represents.records, List.mem_filterMap]
  simp only [List.mem_range'_1, Register.record?, Option.map_eq_some_iff]
  constructor
  · rintro ⟨k, range, value, there, rfl⟩
    exact ⟨range.1, Nat.le_of_lt_succ (by rw [Nat.add_comm 1] at range; exact range.2), there⟩
  · rintro ⟨first, last, there⟩
    exact ⟨r.id, ⟨first, by omega⟩, r.value, there, rfl⟩

/-- **What is kept under a number** is found in the store under that count. -/
theorem get?_of_kept (represents : Represents s g) (small : g.given < 2 ^ 53) {id : Number} {value : α}
    (there : g.kept id = some value) :
    ∃ k, 1 ≤ k ∧ k ≤ g.given ∧ id = .ofNat k ∧ id.toNat? = some k ∧ s.get? k = some ⟨k, value⟩ := by
  obtain ⟨k, first, last, same⟩ := represents.inside id value there
  rw [same] at there ⊢
  refine ⟨k, first, last, rfl, toNat?_ofNat (by omega), ?_⟩
  have member : (⟨k, value⟩ : Numbered α) ∈ s.records := represents.mem_records.2 ⟨first, last, there⟩
  cases found : s.get? k with
  | none => exact absurd (decide_eq_true rfl) (List.find?_eq_none.1 found _ member)
  | some r =>
    have named : r.id = k := by simpa using List.find?_some found
    have kept := (represents.mem_records.1 (List.mem_of_find?_eq_some found)).2.2
    rw [named, there, Option.some.injEq] at kept
    rw [← named, kept]

/-- **Under a number that keeps nothing** nothing is found. -/
theorem get?_of_not_kept (represents : Represents s g) (small : g.given < 2 ^ 53) {id : Number} {n : Nat}
    (nothing : g.kept id = none) (counted : id.toNat? = some n) : s.get? n = none := by
  cases found : s.get? n with
  | none => rfl
  | some r =>
    have named : r.id = n := by simpa using List.find?_some found
    obtain ⟨-, last, there⟩ := represents.mem_records.1 (List.mem_of_find?_eq_some found)
    rw [eq_ofNat_of_toNat? (by omega) counted, ← named, there] at nothing
    cases nothing

/-- The records as they are listed. -/
theorem listed (represents : Represents s g) : s.list.map (fun r => (ofNat r.id, r.value)) = g.records := by
  rw [NumberedStore.list, represents.records, List.map_filterMap, Register.records, Register.ids, List.filterMap_map]
  refine List.filterMap_congr fun k _ => ?_
  simp only [Function.comp_apply, Register.record?, Option.map_map]
  rfl

/-! #### Commands -/

theorem create (represents : Represents s g) (small : g.given + 1 < 2 ^ 53) (value : α) :
    Represents (s.create value).1 (g.step (.create value)).1 where
  next := congrArg (· + 1) represents.next
  records := by
    have one_more : List.range' 1 (g.given + 1) = List.range' 1 g.given ++ [g.given + 1] := by
      rw [List.range'_concat, Nat.one_mul, Nat.add_comm]
    have before : (List.range' 1 g.given).filterMap (g.put (.ofNat (g.given + 1)) (some value)).record? =
        s.records := by
      rw [represents.records]
      refine List.filterMap_congr fun k range => g.record?_put_of_ne ?_ small _ ?_
      all_goals have := List.mem_range'_1.1 range; omega
    have last := g.record?_put_self (g.given + 1) (some value)
    change s.records ++ [⟨s.nextId, value⟩] =
      (List.range' 1 (g.given + 1)).filterMap (g.put (.ofNat (g.given + 1)) (some value)).record?
    rw [one_more, List.filterMap_append, before, List.filterMap_cons_some last, List.filterMap_nil, represents.next]
  inside id value' there := by
    by_cases new : id = .ofNat (g.given + 1)
    · exact ⟨g.given + 1, by omega, Nat.le_refl _, new⟩
    · obtain ⟨k, first, last, same⟩ := represents.inside id value'
        (by rwa [Register.step, Register.kept_put, if_neg new] at there)
      exact ⟨k, first, Nat.le_succ_of_le last, same⟩

/-- What is written under a number, or removed from it, is changed in its place. -/
theorem put (represents : Represents s g) (small : g.given < 2 ^ 53) {n : Nat} (first : 1 ≤ n) (last : n ≤ g.given)
    (new : Option α) {records : List (Numbered α)}
    (changed : records = (List.range' 1 g.given).filterMap fun k =>
      if k = n then new.map (Numbered.mk n) else g.record? k) :
    Represents { s with records } (g.put (.ofNat n) new) where
  next := by rw [Register.given_put, represents.next]
  records := by
    rw [Register.given_put]
    refine changed.trans (List.filterMap_congr fun k range => ?_)
    have below := List.mem_range'_1.1 range
    by_cases here : k = n
    · rw [if_pos here, here, g.record?_put_self]
    · rw [if_neg here, g.record?_put_of_ne (by omega) (by omega) new here]
  inside id value there := by
    by_cases here : id = .ofNat n
    · exact ⟨n, first, by rwa [Register.given_put], here⟩
    · rw [Register.kept_put, if_neg here] at there
      rw [Register.given_put]
      exact represents.inside id value there

/-- **What is there is replaced** in its place. -/
theorem perform_update_of_kept (represents : Represents s g) (small : g.given < 2 ^ 53) {id : Number} {old : α}
    (there : g.kept id = some old) (value : α) :
    ∃ n, 1 ≤ n ∧ n ≤ g.given ∧ id = .ofNat n ∧ s.perform (.update id value) =
      ({ s with records := s.records.map fun r => if r.id = n then ⟨n, value⟩ else r }, .record (.ofNat n) value) := by
  obtain ⟨n, first, last, same, counted, found⟩ := represents.get?_of_kept small there
  refine ⟨n, first, last, same, ?_⟩
  simp only [NumberedStore.perform, counted, NumberedStore.update, found, Option.isSome_some, if_true,
    StoreAnswer.found]

/-- **What is there is removed.** -/
theorem perform_remove_of_kept (represents : Represents s g) (small : g.given < 2 ^ 53) {id : Number} {old : α}
    (there : g.kept id = some old) :
    ∃ n, 1 ≤ n ∧ n ≤ g.given ∧ id = .ofNat n ∧
      s.perform (.remove id) = ({ s with records := s.records.filter (·.id ≠ n) }, .removed) := by
  obtain ⟨n, first, last, same, counted, found⟩ := represents.get?_of_kept small there
  refine ⟨n, first, last, same, ?_⟩
  simp only [NumberedStore.perform, counted, NumberedStore.remove, found, Option.isSome_some, if_true]

/-- **What is not there** cannot be replaced. -/
theorem perform_update_of_not_kept (represents : Represents s g) (small : g.given < 2 ^ 53) {id : Number}
    (nothing : g.kept id = none) (value : α) : s.perform (.update id value) = (s, .missing) := by
  simp only [NumberedStore.perform]
  cases counted : id.toNat? with
  | none => rfl
  | some n =>
    have absent := represents.get?_of_not_kept small nothing counted
    simp only [NumberedStore.update, absent, Option.isSome_none, Bool.false_eq_true, if_false, StoreAnswer.found]

/-- **What is not there** cannot be removed. -/
theorem perform_remove_of_not_kept (represents : Represents s g) (small : g.given < 2 ^ 53) {id : Number}
    (nothing : g.kept id = none) : s.perform (.remove id) = (s, .missing) := by
  simp only [NumberedStore.perform]
  cases counted : id.toNat? with
  | none => rfl
  | some n =>
    have absent := represents.get?_of_not_kept small nothing counted
    have all : s.records.filter (·.id ≠ n) = s.records := by
      refine List.filter_eq_self.2 fun r member => ?_
      simpa using List.find?_eq_none.1 absent r member
    simp only [NumberedStore.remove, absent, all, Option.isSome_none, Bool.false_eq_true, if_false]

theorem update (represents : Represents s g) (small : g.given < 2 ^ 53) (id : Number) (value : α) :
    (s.perform (.update id value)).2 = (g.step (.update id value)).2 ∧
      Represents (s.perform (.update id value)).1 (g.step (.update id value)).1 := by
  cases there : g.kept id with
  | some old =>
    obtain ⟨n, first, last, same, performed⟩ := represents.perform_update_of_kept small there value
    simp only [performed, Register.step, there]
    rw [same] at there ⊢
    refine ⟨rfl, represents.put small first last (some value) ?_⟩
    rw [represents.records, List.map_filterMap]
    refine List.filterMap_congr fun k _ => ?_
    by_cases here : k = n
    · rw [if_pos here, here, Register.record?, there]
      simp only [Option.map_some, if_true]
    · rw [if_neg here, Register.record?]
      cases g.kept (.ofNat k) with
      | none => rfl
      | some value => simp only [Option.map_some, if_neg here]
  | none =>
    simp only [represents.perform_update_of_not_kept small there value, Register.step, there, true_and]
    exact represents

theorem remove (represents : Represents s g) (small : g.given < 2 ^ 53) (id : Number) :
    (s.perform (.remove id)).2 = (g.step (.remove id)).2 ∧
      Represents (s.perform (.remove id)).1 (g.step (.remove id)).1 := by
  cases there : g.kept id with
  | some old =>
    obtain ⟨n, first, last, same, performed⟩ := represents.perform_remove_of_kept small there
    simp only [performed, Register.step, there, true_and]
    rw [same] at there ⊢
    refine represents.put small first last none ?_
    rw [represents.records, List.filter_filterMap]
    refine List.filterMap_congr fun k _ => ?_
    by_cases here : k = n
    · rw [if_pos here, here, Register.record?, there]
      simp
    · rw [if_neg here, Register.record?]
      cases g.kept (.ofNat k) with
      | none => rfl
      | some value => simp [here]
  | none =>
    simp only [represents.perform_remove_of_not_kept small there, Register.step, there, true_and]
    exact represents

theorem get (represents : Represents s g) (small : g.given < 2 ^ 53) (id : Number) :
    (s.perform (.get id)).2 = (g.step (.get id)).2 := by
  cases there : g.kept id with
  | some value =>
    obtain ⟨n, -, -, same, counted, found⟩ := represents.get?_of_kept small there
    simp only [NumberedStore.perform, counted, Option.bind_some, found, Register.step, there, StoreAnswer.found]
    rw [same]
  | none =>
    have nothing : id.toNat?.bind s.get? = none :=
      Option.bind_eq_none_iff.2 fun n counted => represents.get?_of_not_kept small there counted
    simp only [NumberedStore.perform, nothing, Register.step, there, StoreAnswer.found]

end Represents

/-- **Every command is answered alike,** and keeps a store that stands for a register at that. -/
theorem represents_perform {s : NumberedStore α} {g : Register α} (represents : Represents s g) (c : StoreCommand α)
    (small : (g.step c).1.given < 2 ^ 53) :
    (s.perform c).2 = (g.step c).2 ∧ Represents (s.perform c).1 (g.step c).1 := by
  have before : g.given < 2 ^ 53 := by
    rw [Register.given_step] at small
    omega
  cases c with
  | create value =>
    refine ⟨?_, represents.create small value⟩
    simp only [NumberedStore.perform, NumberedStore.create, StoreAnswer.found, represents.next, Register.step]
  | update id value => exact represents.update before id value
  | remove id => exact represents.remove before id
  | get id =>
    refine ⟨represents.get before id, ?_⟩
    have same : (g.step (.get id)).1 = g := by
      simp only [Register.step]
      split <;> rfl
    rw [same]
    exact represents
  | list => exact ⟨congrArg StoreAnswer.all represents.listed, represents⟩

/-! ### Runs -/

theorem Register.given_play (g : Register α) (cs : List (StoreCommand α)) :
    (g.play cs).1.given = g.given + creations cs := by
  induction cs generalizing g with
  | nil => rfl
  | cons c cs ih =>
    rw [play, ih, given_step, creations, creations, List.countP_cons]
    omega

theorem Register.play_append (g : Register α) (cs ds : List (StoreCommand α)) :
    g.play (cs ++ ds) = (((g.play cs).1.play ds).1, (g.play cs).2 ++ ((g.play cs).1.play ds).2) := by
  induction cs generalizing g with
  | nil => rfl
  | cons c cs ih => simp only [List.cons_append, play, ih]

theorem NumberedStore.play_append (s : NumberedStore α) (cs ds : List (StoreCommand α)) :
    s.play (cs ++ ds) = (((s.play cs).1.play ds).1, (s.play cs).2 ++ ((s.play cs).1.play ds).2) := by
  induction cs generalizing s with
  | nil => rfl
  | cons c cs ih => simp only [List.cons_append, play, ih]

/-- **Commands one after the other** are answered alike. -/
theorem represents_play {s : NumberedStore α} {g : Register α} (represents : Represents s g)
    (cs : List (StoreCommand α)) (small : g.given + creations cs < 2 ^ 53) :
    (s.play cs).2 = (g.play cs).2 ∧ Represents (s.play cs).1 (g.play cs).1 := by
  induction cs generalizing s g with
  | nil => exact ⟨rfl, represents⟩
  | cons c cs ih =>
    have total : (g.step c).1.given + creations cs = g.given + creations (c :: cs) := by
      rw [Register.given_step, creations, creations, List.countP_cons]
      omega
    obtain ⟨answer, after⟩ := represents_perform represents c (by omega)
    obtain ⟨answers, final⟩ := ih after (by omega)
    refine ⟨?_, final⟩
    rw [NumberedStore.play, Register.play, answer, answers]

/-! ### What a history says -/

/-- What stands under an id after one more exchange. -/
def note (id : Number) (now : Option α) : StoreCommand α × StoreAnswer α → Option α
  | (.create _, .record id' value) | (.update _ _, .record id' value) => if id = id' then some value else now
  | (.remove id', .removed) => if id = id' then none else now
  | _ => now

/-- **What was last written under an id** and not removed since. -/
def standing (h : Exchanges α) (id : Number) : Option α := h.foldl (note id) none

/-- The id that creating has answered. -/
def newId? : StoreCommand α × StoreAnswer α → Option Number
  | (.create _, .record id _) => some id
  | _ => none

/-- **The ids that were given out,** in the order in which they were. -/
def givenOut (h : Exchanges α) : List Number := h.filterMap newId?

namespace Register

theorem kept_step (g : Register α) (c : StoreCommand α) (id : Number) :
    (g.step c).1.kept id = note id (g.kept id) (c, (g.step c).2) := by
  cases c with
  | create value => exact kept_put ..
  | update id' value =>
    simp only [step]
    split
    · exact kept_put ..
    · rfl
  | remove id' =>
    simp only [step]
    split
    · exact kept_put ..
    · rfl
  | get id' =>
    simp only [step]
    split <;> rfl
  | list => rfl

theorem ids_step (g : Register α) (c : StoreCommand α) :
    (g.step c).1.ids = g.ids ++ (newId? (c, (g.step c).2)).toList := by
  cases c with
  | create value =>
    simp only [ids, step, newId?, List.range'_concat, List.map_append, Nat.one_mul, Nat.add_comm 1]
    rfl
  | update id value | remove id =>
    simp only [step]
    split
    · simp only [ids, given_put, newId?, Option.toList_none, List.append_nil]
    · exact (List.append_nil _).symm
  | get id =>
    simp only [step]
    split <;> exact (List.append_nil _).symm
  | list => exact (List.append_nil _).symm

/-- **A register keeps what its history says,** and has given out what its history says. -/
theorem kept_play (g : Register α) (cs : List (StoreCommand α)) (id : Number) :
    (g.play cs).1.kept id = (g.play cs).2.foldl (note id) (g.kept id) := by
  induction cs generalizing g with
  | nil => rfl
  | cons c cs ih => rw [play, ih, kept_step, List.foldl_cons]

theorem ids_play (g : Register α) (cs : List (StoreCommand α)) :
    (g.play cs).1.ids = g.ids ++ givenOut (g.play cs).2 := by
  induction cs generalizing g with
  | nil => exact (List.append_nil _).symm
  | cons c cs ih =>
    rw [play, ih, ids_step, List.append_assoc, givenOut, givenOut, List.filterMap_cons]
    cases newId? (c, (g.step c).2) <;> rfl

end Register

/-! ### Commands after a history -/

/-- **What a command comes to after a history:** how it is answered, and what is different then. -/
def Meets (h : Exchanges α) (s : NumberedStore α) (c : StoreCommand α) (s' : NumberedStore α)
    (a : StoreAnswer α) : Prop :=
  match c with
  | .create value =>
    a = .record (.ofNat s.nextId) value ∧ ofNat s.nextId ∉ givenOut h ∧ s'.nextId = s.nextId + 1 ∧
      s'.list = s.list ++ [⟨s.nextId, value⟩]
  | .update id value =>
    match standing h id with
    | some _ => a = .record id value ∧ s'.nextId = s.nextId ∧
        s'.list = s.list.map fun r => if .ofNat r.id = id then ⟨r.id, value⟩ else r
    | none => a = .missing ∧ s' = s
  | .remove id =>
    match standing h id with
    | some _ => a = .removed ∧ s'.nextId = s.nextId ∧ s'.list = s.list.filter fun r => ofNat r.id ≠ id
    | none => a = .missing ∧ s' = s
  | .get id =>
    s' = s ∧ a = match standing h id with
      | some value => .record id value
      | none => .missing
  | .list =>
    s' = s ∧ (givenOut h).Nodup ∧ a = .all ((givenOut h).filterMap fun id => (standing h id).map (id, ·))

/-- **A store that is kept well:** every record is found under its own id, a positive number below the next id, and
the next id counts the ids that were given out. -/
structure WellKept (h : Exchanges α) (s : NumberedStore α) : Prop where
  own : ∀ r ∈ s.list, s.perform (.get (.ofNat r.id)) = (s, .record (.ofNat r.id) r.value)
  ids : ∀ r ∈ s.list, 1 ≤ r.id ∧ r.id < s.nextId
  next : s.nextId = (givenOut h).length + 1

/-- A store stands for what a history says. -/
structure Tracks (h : Exchanges α) (s : NumberedStore α) (g : Register α) : Prop where
  represents : Represents s g
  standing : ∀ id, g.kept id = standing h id
  ids : g.ids = givenOut h

namespace Tracks

variable {h : Exchanges α} {s : NumberedStore α} {g : Register α}

theorem wellKept (tracks : Tracks h s g) (small : g.given < 2 ^ 53) : WellKept h s where
  own r member := by
    obtain ⟨-, -, there⟩ := tracks.represents.mem_records.1 member
    refine Prod.ext rfl ((tracks.represents.get small _).trans ?_)
    rw [Register.step, there]
  ids r member := by
    obtain ⟨first, last, -⟩ := tracks.represents.mem_records.1 member
    exact ⟨first, tracks.represents.next ▸ Nat.lt_succ_of_le last⟩
  next := by
    rw [tracks.represents.next, ← tracks.ids, Register.ids, List.length_map, List.length_range']

/-- In a store, a record has an id if it has its count. -/
theorem named_iff (tracks : Tracks h s g) (small : g.given < 2 ^ 53) {id : Number} {n : Nat} (last : n ≤ g.given)
    (same : id = .ofNat n) {r : Numbered α} (member : r ∈ s.records) : ofNat r.id = id ↔ r.id = n := by
  obtain ⟨-, below, -⟩ := tracks.represents.mem_records.1 member
  rw [same]
  exact ⟨ofNat_inj (by omega) (by omega), congrArg ofNat⟩

theorem update (tracks : Tracks h s g) (small : g.given < 2 ^ 53) (id : Number) (value : α) :
    Meets h s (.update id value) (s.perform (.update id value)).1 (s.perform (.update id value)).2 := by
  simp only [Meets, ← tracks.standing]
  cases there : g.kept id with
  | some old =>
    obtain ⟨n, -, last, same, performed⟩ := tracks.represents.perform_update_of_kept small there value
    rw [performed]
    refine ⟨by rw [same], rfl, List.map_congr_left fun r member => ?_⟩
    by_cases here : r.id = n
    · rw [if_pos here, if_pos ((tracks.named_iff small last same member).2 here), here]
    · rw [if_neg here, if_neg (mt (tracks.named_iff small last same member).1 here)]
  | none =>
    rw [tracks.represents.perform_update_of_not_kept small there]
    exact ⟨rfl, rfl⟩

theorem remove (tracks : Tracks h s g) (small : g.given < 2 ^ 53) (id : Number) :
    Meets h s (.remove id) (s.perform (.remove id)).1 (s.perform (.remove id)).2 := by
  simp only [Meets, ← tracks.standing]
  cases there : g.kept id with
  | some old =>
    obtain ⟨n, -, last, same, performed⟩ := tracks.represents.perform_remove_of_kept small there
    rw [performed]
    refine ⟨rfl, rfl, List.filter_congr fun r member => ?_⟩
    rw [decide_eq_decide, not_iff_not]
    exact (tracks.named_iff small last same member).symm
  | none =>
    rw [tracks.represents.perform_remove_of_not_kept small there]
    exact ⟨rfl, rfl⟩

/-- **Every command comes to what it has to** after a history. -/
theorem meets (tracks : Tracks h s g) (c : StoreCommand α) (small : (g.step c).1.given < 2 ^ 53) :
    Meets h s c (s.perform c).1 (s.perform c).2 := by
  have before : g.given < 2 ^ 53 := by
    rw [Register.given_step] at small
    omega
  cases c with
  | create value =>
    have total : g.given + 1 < 2 ^ 53 := small
    refine ⟨rfl, ?_, rfl, rfl⟩
    rw [← tracks.ids, tracks.represents.next, Register.ids, List.mem_map]
    rintro ⟨k, range, same⟩
    have below := List.mem_range'_1.1 range
    have := ofNat_inj (by omega) total same
    omega
  | update id value => exact tracks.update before id value
  | remove id => exact tracks.remove before id
  | get id =>
    refine ⟨rfl, ?_⟩
    rw [tracks.represents.get before id, ← tracks.standing, Register.step]
    cases g.kept id <;> rfl
  | list =>
    refine ⟨rfl, ?_, ?_⟩
    · rw [← tracks.ids, Register.ids]
      refine List.Nodup.map_on (fun k range k' range' same => ?_) List.nodup_range'
      have below := List.mem_range'_1.1 range
      have below' := List.mem_range'_1.1 range'
      exact ofNat_inj (by omega) (by omega) same
    · rw [← tracks.ids, ← funext tracks.standing]
      exact congrArg StoreAnswer.all tracks.represents.listed

end Tracks

/-- A history leaves what it says. -/
theorem tracks_play (cs : List (StoreCommand α)) (small : creations cs < 2 ^ 53) :
    Tracks (NumberedStore.play {} cs).2 (NumberedStore.play {} cs).1 (Register.play {} cs).1 := by
  obtain ⟨answers, represents⟩ := represents_play represents_empty cs (by rwa [Nat.zero_add])
  refine ⟨represents, fun id => ?_, ?_⟩
  · rw [answers]
    exact Register.kept_play {} cs id
  · rw [answers]
    exact Register.ids_play {} cs

/-! ### The catalogue -/

/-- A store that is filled beforehand has had records created in it. -/
theorem NumberedStore.ofList_eq_play (values : List α) : ofList values = (play {} (values.map .create)).1 := by
  rw [ofList]
  generalize ({} : NumberedStore α) = s
  induction values generalizing s with
  | nil => rfl
  | cons value values ih => exact ih (s.create value).1

theorem creations_map_create (values : List α) : creations (values.map StoreCommand.create) = values.length := by
  induction values with
  | nil => rfl
  | cons value values ih =>
    rw [List.map_cons, creations, List.countP_cons, ← creations, ih]
    rfl

/-- The register of a catalogue that is filled beforehand. -/
def Register.filled (values : List α) : Register α := (play {} (values.map .create)).1

/-- The history of a catalogue: it is filled, and then does what it is asked. -/
def history (seed : List α) (cs : List (StoreCommand α)) : Exchanges α :=
  (NumberedStore.play {} (seed.map .create ++ cs)).2

/-- **A product shows its id,** whatever was said of an id, and otherwise what was said of it. -/
theorem Product.member?_toJson (p : Product) :
    p.toJson.member? "id" = some (.nat p.id) ∧
      ∀ name, name ≠ "id" → p.toJson.member? name = Table.get? p.value name :=
  ⟨Table.get?_put_self .., fun _ other => Table.get?_put_of_ne _ _ other⟩

/-- **The catalogue keeps records as an ordered map with a counter does.**  From any products, any commands with fewer
than `2^53` creations are answered as a register answers them.  At every point of the run the store is kept well, its
products show their own ids, and the next command comes to what the history says. -/
theorem ProductStore.refines (seed : List Members) (cs : List (StoreCommand Members))
    (few : seed.length + creations cs < 2 ^ 53) :
    (NumberedStore.play (.ofList seed) cs).2 = ((Register.filled seed).play cs).2 ∧
      ∀ earlier later, cs = earlier ++ later →
        let s : ProductStore := (NumberedStore.play (.ofList seed) earlier).1
        WellKept (history seed earlier) s ∧
          (∀ p ∈ s.list, (Product.toJson p).member? "id" = some (.nat p.id) ∧
            ∀ name, name ≠ "id" → (Product.toJson p).member? name = Table.get? p.value name) ∧
          ∀ c ∈ later.head?, Meets (history seed earlier) s c (s.perform c).1 (s.perform c).2 := by
  have seeded := creations_map_create seed
  constructor
  · obtain ⟨-, represents⟩ := represents_play represents_empty (seed.map StoreCommand.create) (by simp only; omega)
    have given : (Register.filled seed).given = seed.length := by
      rw [Register.filled, Register.given_play, seeded, Nat.zero_add]
    rw [NumberedStore.ofList_eq_play]
    exact (represents_play represents cs (by rw [← Register.filled, given]; exact few)).1
  · rintro earlier later rfl s
    rw [creations, List.countP_append] at few
    have total : creations (seed.map StoreCommand.create ++ earlier) = seed.length + creations earlier := by
      rw [creations, List.countP_append, ← creations, seeded, creations]
    have tracks := tracks_play (seed.map StoreCommand.create ++ earlier) (by rw [total, creations]; omega)
    have store : (NumberedStore.play {} (seed.map .create ++ earlier)).1 = s := by
      rw [NumberedStore.play_append, ← NumberedStore.ofList_eq_play]
    rw [store] at tracks
    have given : (Register.play {} (seed.map .create ++ earlier)).1.given = seed.length + creations earlier := by
      rw [Register.given_play, total, Nat.zero_add]
    refine ⟨tracks.wellKept ?_, fun p _ => Product.member?_toJson p, fun c next => tracks.meets c ?_⟩
    · rw [given, creations]
      omega
    · obtain ⟨rest, rfl⟩ : ∃ rest, later = c :: rest := List.head?_eq_some_iff.1 next
      rw [List.countP_cons] at few
      rw [Register.given_step, given, creations]
      omega

/-- A catalogue of a pen and a cup. -/
def penAndCup : List Members := [[("name", .string "pen")], [("name", .string "cup")]]

/-- The cup is removed, and a jar comes that claims the id of the cup. -/
def cupForJar : List (StoreCommand Members) := [.remove 2, .create [("id", .number 2), ("name", .string "jar")]]

theorem ProductStore.refines_cup_for_jar :
    penAndCup.length + creations cupForJar < 2 ^ 53 ∧
      (NumberedStore.play (.ofList penAndCup) cupForJar).2 = ((Register.filled penAndCup).play cupForJar).2 ∧
        WellKept (history penAndCup cupForJar) (NumberedStore.play (.ofList penAndCup) cupForJar).1 := by
  have few : penAndCup.length + creations cupForJar < 2 ^ 53 := by decide
  obtain ⟨answers, run⟩ := ProductStore.refines penAndCup cupForJar few
  exact ⟨few, answers, (run cupForJar [] (List.append_nil _).symm).1⟩

end BearerGate
