import BearerGate.Proofs.Json.Text

/-!
# What a text says of a value

JSON has no text for a number that is not finite, and `null` is written in its place.  `Json.sent` is the value that
is left: it has the same text (`render_sent`), and whoever reads that text reads it (`parse?_render_sent`).  A value
whose numbers are finite is sent as it is.
-/

namespace BearerGate

namespace Table

variable {α β : Type}

/-! ### Tables with other values -/

/-- The table with other values under the same names. -/
abbrev mapValues (f : α → β) (t : Table α) : Table β := t.map fun e => (e.1, f e.2)

theorem put_mapValues (f : α → β) (t : Table α) (name : String) (value : α) :
    put (mapValues f t) name (f value) = mapValues f (put t name value) := by
  have there : (mapValues f t).any (·.1 = name) = t.any (·.1 = name) := by
    rw [mapValues, List.any_map]
    rfl
  unfold put alter
  rw [there]
  by_cases known : t.any (·.1 = name) = true
  · rw [if_pos known, if_pos known, mapValues, mapValues, List.map_map, List.map_map]
    refine List.map_congr_left fun e _ => ?_
    by_cases same : e.1 = name <;> simp [same]
  · rw [if_neg known, if_neg known, mapValues, mapValues, List.map_append]
    rfl

theorem putAll_mapValues (f : α → β) (t : Table α) (entries : List (String × α)) :
    putAll (mapValues f t) (mapValues f entries) = mapValues f (putAll t entries) := by
  induction entries generalizing t with
  | nil => rfl
  | cons e entries ih =>
    have first := put_mapValues f t e.1 e.2
    change putAll (put (mapValues f t) e.1 (f e.2)) (mapValues f entries) = _
    rw [first]
    exact ih _

/-- **The order of visiting goes by the names.** -/
theorem arrange_mapValues (f : α → β) (t : Table α) : arrange (mapValues f t) = mapValues f (arrange t) := by
  have sorted : ∀ indexed : Table α,
      mapValues f (indexed.mergeSort fun a b => (index? a.1).getD 0 ≤ (index? b.1).getD 0) =
        (mapValues f indexed).mergeSort fun a b => (index? a.1).getD 0 ≤ (index? b.1).getD 0 :=
    fun _ => List.map_mergeSort fun _ _ _ _ => rfl
  unfold arrange
  rw [List.partition_eq_filter_filter, List.partition_eq_filter_filter, List.filter_map, List.filter_map]
  dsimp only
  rw [mapValues, List.map_append]
  exact congrArg (· ++ _) (sorted _).symm

theorem settle_mapValues (f : α → β) (entries : List (String × α)) :
    settle (mapValues f entries) = mapValues f (settle entries) := by
  have written := putAll_mapValues f [] entries
  rw [settle, settle, ← arrange_mapValues, ← written]
  rfl

end Table

namespace Json

/-! ### What is sent -/

mutual

/-- **A value as its text says it:** in place of a number that is not finite there is nothing. -/
def sent : Json → Json
  | null => null
  | bool b => bool b
  | number n => if n.isFinite then number n else null
  | string s => string s
  | array elements => array (sentElements elements)
  | object members => object (sentMembers members)

def sentElements : List Json → List Json
  | [] => []
  | j :: js => sent j :: sentElements js

def sentMembers : List (String × Json) → List (String × Json)
  | [] => []
  | (name, j) :: ms => (name, sent j) :: sentMembers ms

end

theorem sentElements_eq_map (js : List Json) : sentElements js = js.map sent := by
  induction js with
  | nil => rfl
  | cons j js ih => rw [sentElements, ih, List.map_cons]

theorem sentMembers_eq_map (ms : List (String × Json)) : sentMembers ms = Table.mapValues sent ms := by
  induction ms with
  | nil => rfl
  | cons m ms ih =>
    obtain ⟨name, j⟩ := m
    rw [sentMembers, ih]
    rfl

theorem sent_number {n : Number} (finite : n.isFinite = true) : sent (number n) = number n := by
  rw [sent, if_pos finite]

theorem sent_number_of_not_finite {n : Number} (endless : n.isFinite = false) : sent (number n) = null := by
  rw [sent, if_neg (by rw [endless]; decide)]

/-! ### The same text -/

mutual

theorem renderChars_sent : ∀ j : Json, renderChars (sent j) = renderChars j
  | null => rfl
  | bool _ => rfl
  | number n => by
    cases finite : n.isFinite with
    | true => rw [sent_number finite]
    | false =>
      rw [sent_number_of_not_finite finite, renderChars, renderChars, renderNumber, if_neg (by rw [finite]; decide)]
  | string _ => rfl
  | array elements => by rw [sent, renderChars, renderChars, renderElements_sent elements]
  | object members => by rw [sent, renderChars, renderChars, renderMembers_sent members]

theorem renderElements_sent : ∀ js : List Json, renderElements (sentElements js) = renderElements js
  | [] => rfl
  | [j] => renderChars_sent j
  | j :: j' :: js => by
    have others := renderElements_sent (j' :: js)
    rw [sentElements] at others
    rw [sentElements, sentElements, renderElements_cons_cons, renderElements_cons_cons, renderChars_sent j, others]

theorem renderMembers_sent : ∀ ms : List (String × Json), renderMembers (sentMembers ms) = renderMembers ms
  | [] => rfl
  | [(name, j)] => by
    rw [sentMembers, sentMembers, renderMembers, renderMembers, renderChars_sent j]
  | (name, j) :: (name', j') :: ms => by
    have others := renderMembers_sent ((name', j') :: ms)
    rw [sentMembers] at others
    rw [sentMembers, sentMembers]
    simp only [renderMembers, renderChars_sent j, others]

end

/-- **What is sent has the same text.** -/
theorem render_sent (j : Json) : render (sent j) = render j := by
  rw [render, render, renderChars_sent]

/-! ### Reading it -/

/-- What is sent of a value as a reader gives it is one too. -/
theorem settled_sent {j : Json} (settled : j.Settled) : j.sent.Settled := by
  induction settled with
  | null => exact .null
  | bool b => exact .bool b
  | @number n held =>
    rw [sent]
    split
    · exact .number held
    · exact .null
  | string s => exact .string s
  | array _ each =>
    rw [sent, sentElements_eq_map]
    refine .array fun j member => ?_
    obtain ⟨i, there, rfl⟩ := List.mem_map.1 member
    exact each i there
  | @object members ordered _ each =>
    have arranged : Table.settle members = members := Json.object.inj ordered
    rw [sent, sentMembers_eq_map]
    refine .object ?_ fun m member => ?_
    · exact congrArg object ((Table.settle_mapValues sent members).trans (by rw [arranged]))
    · obtain ⟨i, there, rfl⟩ := List.mem_map.1 member
      exact each i there

/-- **In what is sent all numbers are finite.** -/
theorem allFinite_sent {j : Json} (settled : j.Settled) : j.sent.AllFinite := by
  induction settled with
  | null => exact .null
  | bool b => exact .bool b
  | @number n held =>
    rw [sent]
    split
    · rename_i finite
      exact .number finite
    · exact .null
  | string s => exact .string s
  | array _ each =>
    rw [sent, sentElements_eq_map]
    refine .array fun j member => ?_
    obtain ⟨i, there, rfl⟩ := List.mem_map.1 member
    exact each i there
  | object _ _ each =>
    rw [sent, sentMembers_eq_map]
    refine .object fun m member => ?_
    obtain ⟨i, there, rfl⟩ := List.mem_map.1 member
    exact each i there

/-- **The text of a value reads back as what was sent of it.** -/
theorem parse?_render_sent {j : Json} (settled : j.Settled) : parse? (render j) = some j.sent := by
  rw [← render_sent]
  exact parse?_render (settled_sent settled) (allFinite_sent settled)

end Json

end BearerGate
