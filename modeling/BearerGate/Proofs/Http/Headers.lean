import BearerGate.Http.Headers
import BearerGate.Proofs.Text.Trim

/-!
# Header lists and their names

A header list that was built by adding values holds its names in lower case (`Headers.Lowered`), so that a
value which is set or removed under a name is set or removed under every spelling of it.  Values that have
no blank at their ends and no forbidden character are kept as they are (`Headers.IsValue`).
-/

namespace BearerGate

namespace Text

private theorem toLower_toLower (c : Char) : c.toLower.toLower = c.toLower := by
  by_cases upper : c.val ≥ 'A'.val ∧ c.val ≤ 'Z'.val
  · have moved : c.toLower.val = c.val + ('a'.val - 'A'.val) := congrArg Char.val (dif_pos upper)
    have not_upper : ¬(c.toLower.val ≥ 'A'.val ∧ c.toLower.val ≤ 'Z'.val) := by
      rw [moved]
      obtain ⟨above, below⟩ := upper
      simp only [ge_iff_le, UInt32.le_iff_toNat_le, UInt32.toNat_add] at *
      have first : ('A' : Char).val.toNat = 65 := rfl
      have last : ('Z' : Char).val.toNat = 90 := rfl
      have distance : ('a'.val - 'A'.val).toNat = 32 := rfl
      omega
    exact dif_neg not_upper
  · have kept : c.toLower = c := dif_neg upper
    rw [kept, kept]

@[simp]
theorem lower_lower (s : String) : lower (lower s) = lower s := by
  rw [lower, lower, String.toList_ofList, List.map_map]
  have same : Char.toLower ∘ Char.toLower = Char.toLower := by
    funext c
    exact toLower_toLower c
  rw [same]

end Text

namespace Headers

/-! ### Values -/

/-- Characters that may stand inside a value. -/
def isValueChar (c : Char) : Bool := c ≠ '\x00' && c ≠ '\n' && c ≠ '\r' && c.toNat ≤ 255

/-- **Values that a header list keeps as they are.** -/
structure IsValue (s : String) : Prop where
  first : ∀ c ∈ s.toList.head?, isEdgeBlank c = false
  last : ∀ c ∈ s.toList.getLast?, isEdgeBlank c = false
  chars : ∀ c ∈ s.toList, isValueChar c = true

theorem value?_of_isValue {s : String} (value : IsValue s) : value? s = some s := by
  have chars : s.toList.all (fun c => c ≠ '\x00' && c ≠ '\n' && c ≠ '\r' && c.toNat ≤ 255) = true :=
    List.all_eq_true.2 value.chars
  simp only [value?, Text.trimChars_eq_self value.first value.last, chars, if_true,
    String.ofList_toList]

/-! ### Names -/

/-- Every name of a list is in lower case. -/
def Lowered (h : Headers) : Prop := ∀ e ∈ h.entries, Text.lower e.1 = e.1

theorem lowered_put {h : Headers} (lowered : h.Lowered) (name value : String) :
    (h.put name value).Lowered := by
  intro e member
  simp only [put, delete, List.mem_append, List.mem_filter, List.mem_singleton] at member
  rcases member with ⟨old, -⟩ | rfl
  · exact lowered e old
  · simp

theorem lowered_append? {h h' : Headers} (lowered : h.Lowered) {name value : String}
    (added : h.append? name value = some h') : h'.Lowered := by
  unfold append? at added
  split at added
  · obtain ⟨v, -, rfl⟩ := Option.map_eq_some_iff.1 added
    split
    · intro e member
      rcases List.mem_append.1 member with old | new
      · exact lowered e old
      · rw [List.mem_singleton.1 new]
        change Text.lower "set-cookie" = "set-cookie"
        decide
    · split
      · exact lowered_put lowered _ _
      · exact lowered_put lowered _ _
  · cases added

theorem lowered_delete {h : Headers} (lowered : h.Lowered) (name : String) :
    (h.delete name).Lowered := by
  intro e member
  exact lowered e (List.mem_filter.1 member).1

/-- **The lists there are:** those that come from adding, setting and removing. -/
inductive Built : Headers → Prop
  | empty : Built {}
  | append? {h h' : Headers} {name value : String} :
    Built h → h.append? name value = some h' → Built h'
  | set? {h h' : Headers} {name value : String} :
    Built h → h.set? name value = some h' → Built h'
  | delete {h : Headers} {name : String} : Built h → Built (h.delete name)

/-- However the names were spelled, they are held in lower case. -/
theorem lowered_of_built {h : Headers} (built : h.Built) : h.Lowered := by
  induction built with
  | empty =>
    intro e member
    cases member
  | append? _ added ih => exact lowered_append? ih added
  | set? _ set ih =>
    unfold Headers.set? at set
    split at set
    · obtain ⟨v, -, rfl⟩ := Option.map_eq_some_iff.1 set
      exact lowered_put ih _ _
    · cases set
  | delete _ ih => exact lowered_delete ih _

private theorem built_foldlM (pairs : List (String × String)) {h h' : Headers} (start : h.Built)
    (made : pairs.foldlM (fun h p => h.append? p.1 p.2) h = some h') : h'.Built := by
  induction pairs generalizing h with
  | nil =>
    cases made
    exact start
  | cons p pairs ih =>
    rw [List.foldlM_cons] at made
    obtain ⟨next, added, rest⟩ := Option.bind_eq_some_iff.1 made
    exact ih (start.append? added) rest

theorem built_of_ofPairs? {pairs : List (String × String)} {h : Headers}
    (made : ofPairs? pairs = some h) : h.Built :=
  built_foldlM pairs .empty made

/-! ### What is found after a change -/

/-- A name that was taken out is not found. -/
theorem get?_delete_self (h : Headers) {name other : String}
    (same : Text.lower other = Text.lower name) : (h.delete name).get? other = none := by
  rw [get?, same, Table.get?_eq_none_iff]
  intro e member
  simpa [delete] using (List.mem_filter.1 member).2

/-- What a name is taken for, is found under it. -/
theorem get?_put_self (h : Headers) {name other : String} (value : String)
    (same : Text.lower other = Text.lower name) : (h.put name value).get? other = some value := by
  have gone : Table.get? (h.delete name).entries (Text.lower name) = none :=
    get?_delete_self h rfl
  rw [get?, same, put, Table.get?_append, gone, Table.get?_cons]
  simp

/-- Taking a name out changes nothing under another. -/
theorem get?_delete_of_ne (h : Headers) {name other : String}
    (ne : Text.lower other ≠ Text.lower name) : (h.delete name).get? other = h.get? other := by
  rw [get?, get?, delete]
  induction h.entries with
  | nil => rfl
  | cons e es ih =>
    rw [List.filter_cons, Table.get?_cons]
    by_cases same : e.1 = Text.lower name
    · rw [if_neg (by simp [same]), ih, if_neg (by rw [same]; exact Ne.symm ne)]
    · rw [if_pos (by simp [same]), Table.get?_cons, ih]

/-- Other names keep what is found under them. -/
theorem get?_put_of_ne (h : Headers) {name other : String} (value : String)
    (ne : Text.lower other ≠ Text.lower name) : (h.put name value).get? other = h.get? other := by
  rw [← get?_delete_of_ne h ne, get?, get?, put, Table.get?_append, Table.get?_cons,
    if_neg (Ne.symm ne)]
  simp [Table.get?]

/-! ### Lists of names and values -/

/-- What may stand in a list can be added to it. -/
theorem exists_append? (h : Headers) {name value : String} (named : isName name = true)
    (fine : (value? value).isSome = true) : ∃ h', h.append? name value = some h' := by
  obtain ⟨v, read⟩ := Option.isSome_iff_exists.1 fine
  rw [append?, if_pos named, read]
  exact ⟨_, rfl⟩

private theorem exists_foldlM (pairs : List (String × String))
    (fine : ∀ p ∈ pairs, isName p.1 = true ∧ (value? p.2).isSome = true) (h : Headers) :
    ∃ h', pairs.foldlM (fun h p => h.append? p.1 p.2) h = some h' := by
  induction pairs generalizing h with
  | nil => exact ⟨h, rfl⟩
  | cons p pairs ih =>
    obtain ⟨next, added⟩ := exists_append? h (fine p List.mem_cons_self).1 (fine p List.mem_cons_self).2
    obtain ⟨h', made⟩ := ih (fun q member => fine q (List.mem_cons_of_mem _ member)) next
    exact ⟨h', by rw [List.foldlM_cons, added, Option.bind_eq_bind, Option.bind_some, made]⟩

/-- **Names and values that may stand in a list make one.** -/
theorem exists_ofPairs? {pairs : List (String × String)}
    (fine : ∀ p ∈ pairs, isName p.1 = true ∧ (value? p.2).isSome = true) : ∃ h, ofPairs? pairs = some h :=
  exists_foldlM pairs fine {}

/-- Adding a value changes nothing under other names. -/
theorem get?_append?_of_ne {h h' : Headers} {name value other : String} (added : h.append? name value = some h')
    (ne : Text.lower other ≠ Text.lower name) : h'.get? other = h.get? other := by
  unfold append? at added
  split at added
  · obtain ⟨v, -, rfl⟩ := Option.map_eq_some_iff.1 added
    split
    · rename_i cookie
      rw [cookie] at ne
      rw [get?, get?, Table.get?_append, Table.get?_cons, if_neg (Ne.symm ne)]
      simp [Table.get?]
    · split
      · exact get?_put_of_ne h _ ne
      · exact get?_put_of_ne h _ ne
  · cases added

private theorem get?_foldlM_of_ne {pairs : List (String × String)} {h h' : Headers} {name : String}
    (made : pairs.foldlM (fun h p => h.append? p.1 p.2) h = some h')
    (other : ∀ p ∈ pairs, Text.lower name ≠ Text.lower p.1) : h'.get? name = h.get? name := by
  induction pairs generalizing h with
  | nil =>
    cases made
    rfl
  | cons p pairs ih =>
    rw [List.foldlM_cons] at made
    obtain ⟨next, added, rest⟩ := Option.bind_eq_some_iff.1 made
    rw [ih rest fun q member => other q (List.mem_cons_of_mem _ member),
      get?_append?_of_ne added (other p List.mem_cons_self)]

/-- **What is listed last under a name of its own is found under it.** -/
theorem get?_ofPairs?_concat {pairs : List (String × String)} {h : Headers} {name value : String}
    (made : ofPairs? (pairs ++ [(name, value)]) = some h) (value_fine : IsValue value)
    (single : Text.lower name ≠ "set-cookie") (other : ∀ p ∈ pairs, Text.lower name ≠ Text.lower p.1) :
    h.get? name = some value := by
  rw [ofPairs?, List.foldlM_append] at made
  obtain ⟨front, fronted, last⟩ := Option.bind_eq_some_iff.1 made
  have added : front.append? name value = some h := by
    simpa only [List.foldlM_cons, List.foldlM_nil, bind_pure] using last
  have absent : front.get? name = none := by
    rw [get?_foldlM_of_ne fronted other]
    rfl
  unfold append? at added
  split at added
  · rw [value?_of_isValue value_fine, Option.map_some, absent] at added
    cases added
    exact get?_put_self front value rfl
  · cases added

end Headers

end BearerGate
