import BearerGate.Json.Basic

/-!
# Members in their order

What is written into a table one by one comes out in a settled form: no name is there twice, and the names
that are indices come first.  Writing such a table again changes nothing (`Table.settle_settle`), which is why
the members of an object that was read are the members that are read from its text.
-/

namespace BearerGate

namespace Table

variable {α : Type}

/-- The names of a table, in order. -/
abbrev names (t : Table α) : List String := t.map (·.1)

/-- **The table that comes from writing entries** one after the other, in the order of visiting. -/
abbrev settle (entries : List (String × α)) : Table α := arrange (putAll [] entries)

/-! ### Writing entries -/

theorem names_put (t : Table α) (name : String) (value : α) :
    (put t name value).names = if name ∈ t.names then t.names else t.names ++ [name] := by
  have there_iff : t.any (·.1 = name) = true ↔ name ∈ t.names := by simp
  unfold put alter
  by_cases there : name ∈ t.names
  · rw [if_pos (there_iff.2 there), if_pos there, names, List.map_map]
    refine List.map_congr_left fun e _ => ?_
    by_cases same : e.1 = name
    · simp [same]
    · simp [same]
  · rw [if_neg (mt there_iff.1 there), if_neg there, names, List.map_append]
    rfl

theorem nodup_names_put {t : Table α} (nodup : t.names.Nodup) (name : String) (value : α) :
    (put t name value).names.Nodup := by
  rw [names_put]
  split
  · exact nodup
  · rename_i new
    rw [List.nodup_append]
    refine ⟨nodup, by simp, ?_⟩
    intro a there b single same
    rw [same, List.mem_singleton.1 single] at there
    exact new there

/-- **No name is there twice.** -/
theorem nodup_names_putAll {t : Table α} (nodup : t.names.Nodup) (entries : List (String × α)) :
    (putAll t entries).names.Nodup := by
  induction entries generalizing t with
  | nil => exact nodup
  | cons e entries ih => exact ih (nodup_names_put nodup e.1 e.2)

/-- Entries with new names go to the end. -/
theorem putAll_of_nodup {t entries : Table α} (nodup : (t ++ entries).names.Nodup) :
    putAll t entries = t ++ entries := by
  induction entries generalizing t with
  | nil => exact (List.append_nil t).symm
  | cons e entries ih =>
    have new : e.1 ∉ t.names := by
      rw [names, List.map_append, List.nodup_append] at nodup
      intro there
      exact nodup.2.2 e.1 there e.1 List.mem_cons_self rfl
    have appended : put t e.1 e.2 = t ++ [e] := by
      unfold put alter
      exact if_neg fun there => new (by simpa using there)
    have moved : t ++ e :: entries = (t ++ [e]) ++ entries := by simp
    rw [moved] at nodup ⊢
    change putAll (put t e.1 e.2) entries = _
    rw [appended]
    exact ih nodup

/-- What is in a table was in it before or was written. -/
theorem mem_put {t : Table α} {name : String} {value : α} {e : String × α} (member : e ∈ put t name value) :
    e ∈ t ∨ e = (name, value) := by
  unfold put alter at member
  split at member
  · obtain ⟨old, there, rfl⟩ := List.mem_map.1 member
    split
    · exact .inr rfl
    · exact .inl there
  · rcases List.mem_append.1 member with old | new
    · exact .inl old
    · exact .inr (List.mem_singleton.1 new)

theorem mem_putAll {t entries : Table α} {e : String × α} (member : e ∈ putAll t entries) :
    e ∈ t ∨ e ∈ entries := by
  induction entries generalizing t with
  | nil => exact .inl member
  | cons first entries ih =>
    rcases ih member with before | later
    · rcases mem_put before with old | rfl
      · exact .inl old
      · exact .inr List.mem_cons_self
    · exact .inr (List.mem_cons_of_mem _ later)

/-! ### The order of visiting -/

private def isIndexed (e : String × α) : Bool := (index? e.1).isSome

private def indexLe (a b : String × α) : Bool := (index? a.1).getD 0 ≤ (index? b.1).getD 0

private theorem arrange_eq (t : Table α) :
    arrange t = (t.filter isIndexed).mergeSort indexLe ++ t.filter (not ∘ isIndexed) := by
  unfold arrange
  rw [List.partition_eq_filter_filter]
  rfl

/-- **Arranging only changes the order.** -/
theorem arrange_perm (t : Table α) : (arrange t).Perm t := by
  rw [arrange_eq]
  exact ((List.mergeSort_perm _ _).append_right _).trans (List.filter_append_perm isIndexed t)

/-- What is in order stays as it is. -/
theorem arrange_arrange (t : Table α) : arrange (arrange t) = arrange t := by
  have trans : ∀ a b c : String × α, indexLe a b = true → indexLe b c = true → indexLe a c = true := by
    intro a b c first second
    simp only [indexLe, decide_eq_true_eq] at first second ⊢
    omega
  have total : ∀ a b : String × α, (indexLe a b || indexLe b a) = true := by
    intro a b
    simp only [indexLe, Bool.or_eq_true, decide_eq_true_eq]
    omega
  have sorted := List.pairwise_mergeSort trans total (t.filter isIndexed)
  have indexed : ∀ e ∈ (t.filter isIndexed).mergeSort indexLe, isIndexed e = true := by
    intro e member
    exact (List.mem_filter.1 (List.mem_mergeSort.1 member)).2
  have named : ∀ e ∈ t.filter (not ∘ isIndexed), isIndexed e = false := by
    intro e member
    simpa using (List.mem_filter.1 member).2
  generalize first_eq : (t.filter isIndexed).mergeSort indexLe = first at sorted indexed
  generalize second_eq : t.filter (not ∘ isIndexed) = second at named
  have split : arrange t = first ++ second := by rw [arrange_eq, first_eq, second_eq]
  have first_none : first.filter (not ∘ isIndexed) = [] := by
    refine List.filter_eq_nil_iff.2 fun e member => ?_
    simp [indexed e member]
  have second_none : second.filter isIndexed = [] := by
    refine List.filter_eq_nil_iff.2 fun e member => ?_
    simp [named e member]
  have second_all : second.filter (not ∘ isIndexed) = second := by
    refine List.filter_eq_self.2 fun e member => ?_
    simp [named e member]
  rw [split, arrange_eq, List.filter_append, List.filter_append, List.filter_eq_self.2 indexed, first_none,
    second_none, second_all, List.append_nil, List.nil_append, List.mergeSort_of_pairwise sorted]

/-- Names that are no indices stay as they stand. -/
theorem arrange_eq_self {t : Table α} (plain : ∀ name ∈ t.names, index? name = none) : arrange t = t := by
  have unindexed : ∀ e ∈ t, isIndexed e = false := by
    intro e member
    rw [isIndexed, plain e.1 (List.mem_map_of_mem member)]
    rfl
  have none_first : t.filter isIndexed = [] := by
    refine List.filter_eq_nil_iff.2 fun e member => ?_
    simp [unindexed e member]
  have all_later : t.filter (not ∘ isIndexed) = t := by
    refine List.filter_eq_self.2 fun e member => ?_
    simp [unindexed e member]
  rw [arrange_eq, none_first, all_later, List.mergeSort_nil, List.nil_append]

/-- A settled table has no name twice. -/
theorem nodup_names_settle (entries : List (String × α)) : (settle entries).names.Nodup :=
  ((arrange_perm _).map _).nodup_iff.2 (nodup_names_putAll (t := []) List.nodup_nil entries)

/-- **A table that is settled stays as it is.** -/
theorem settle_settle (entries : List (String × α)) : settle (settle entries) = settle entries := by
  have written : putAll [] (settle entries) = settle entries := putAll_of_nodup (nodup_names_settle entries)
  rw [settle, written, settle, arrange_arrange]

/-- Where no name is twice, what is found under a name is what stands there. -/
theorem get?_eq_some_iff_of_nodup {t : Table α} (nodup : t.names.Nodup) {name : String} {value : α} :
    get? t name = some value ↔ (name, value) ∈ t := by
  induction t with
  | nil => simp [get?]
  | cons e t ih =>
    rw [names, List.map_cons, List.nodup_cons] at nodup
    rw [get?_cons, List.mem_cons]
    split
    · rename_i same
      subst same
      have once : (e.1, value) ∉ t := fun later => nodup.1 (List.mem_map.2 ⟨_, later, rfl⟩)
      rw [Option.some.injEq, or_iff_left once]
      exact ⟨fun same => by rw [← same], fun same => (congrArg Prod.snd same).symm⟩
    · rename_i other
      rw [ih nodup.2, or_iff_right]
      rintro rfl
      exact other rfl

/-- The order of visiting makes no difference to what is found. -/
theorem get?_arrange {t : Table α} (nodup : t.names.Nodup) (name : String) : get? (arrange t) name = get? t name := by
  have nodup' : (arrange t).names.Nodup := ((arrange_perm t).map _).nodup_iff.2 nodup
  refine Option.ext fun value => ?_
  rw [get?_eq_some_iff_of_nodup nodup', get?_eq_some_iff_of_nodup nodup, (arrange_perm t).mem_iff]

theorem mem_settle {entries : List (String × α)} {e : String × α} (member : e ∈ settle entries) :
    e ∈ entries := by
  rcases mem_putAll ((arrange_perm _).mem_iff.1 member) with none | there
  · cases none
  · exact there

end Table

namespace Json

/-- **The members of an object that was built** build it again. -/
theorem ofMembers_settle (written : List (String × Json)) :
    ofMembers (Table.settle written) = ofMembers written :=
  congrArg object (Table.settle_settle written)

/-- Members under names that are no indices, each there once, are in their order. -/
theorem ofMembers_eq_object {members : Members} (nodup : members.names.Nodup)
    (plain : ∀ name ∈ members.names, Table.index? name = none) : ofMembers members = object members := by
  have written : Table.putAll [] members = members := Table.putAll_of_nodup nodup
  rw [ofMembers, written, Table.arrange_eq_self plain]

end Json

end BearerGate
