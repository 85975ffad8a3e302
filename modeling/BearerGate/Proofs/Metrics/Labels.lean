import Mathlib.Data.List.Pairwise
import BearerGate.Proofs.Metrics.Exposition

/-!
# Label sets as texts

A label set is kept as one text, and cut again when it is written for a collector.  The cuts are found at
commas and equals signs, and only quotes are escaped, so the round trip holds for values with none of the
four characters `,`, `=`, backslash and line feed (`isPlain`).  For such labels

* the text determines the labels: `read` takes them back out of it (`read_joined`), and
* what is written for the collector is what its grammar wants (`render_joined`).

The order of the labels in the text is the alphabetical one of their names, whatever order they are given
in (`key_eq_joined`).
-/

namespace BearerGate

namespace Text

/-! ### Order of texts -/

theorem unitsLe_total (s t : List Nat) : unitsLe s t || unitsLe t s := by
  induction s generalizing t with
  | nil => rfl
  | cons a s ih =>
    cases t with
    | nil => rfl
    | cons b t =>
      have rest := ih t
      simp only [unitsLe, Bool.or_eq_true, Bool.and_eq_true, decide_eq_true_eq] at rest ⊢
      rcases Nat.lt_trichotomy a b with less | rfl | greater
      · exact .inl (.inl less)
      · exact rest.imp (fun le => .inr ⟨rfl, le⟩) fun le => .inr ⟨rfl, le⟩
      · exact .inr (.inl greater)

theorem unitsLe_trans {s t u : List Nat} (first : unitsLe s t = true) (second : unitsLe t u = true) :
    unitsLe s u = true := by
  induction s generalizing t u with
  | nil => rfl
  | cons a s ih =>
    cases t with
    | nil => cases first
    | cons b t =>
      cases u with
      | nil => cases second
      | cons c u =>
        simp only [unitsLe, Bool.or_eq_true, Bool.and_eq_true, decide_eq_true_eq] at first second ⊢
        rcases first with less | ⟨rfl, first⟩
        · rcases second with less' | ⟨rfl, -⟩
          · exact .inl (Nat.lt_trans less less')
          · exact .inl less
        · exact second.imp id fun same => ⟨same.1, ih first same.2⟩

end Text

namespace Labels

open Exposition

/-! ### Labels in one text -/

/-- The labels of a set that have a value. -/
def defined (labels : Labels) : List (String × String) := labels.filterMap fun l => l.2.map (l.1, ·)

/-- A label as it is kept. -/
def entry (l : String × String) : String := l.1 ++ "=" ++ l.2

/-- **Labels as they are kept in one text,** in the order given. -/
def joined (ls : List (String × String)) : String := String.intercalate "," (ls.map entry)

/-- **The labels that a text keeps:** the reverse of `joined`. -/
def read (key : String) : List (String × String) :=
  (Text.pieces (· = ',') key).map fun piece =>
    let parts := Text.pieces (· = '=') piece
    (parts.headD "", (parts[1]?).getD "")

/-- One label stands before another, and not after it. -/
def Before (l k : String × String) : Prop :=
  Text.unitOrder (entry l) (entry k) = true ∧ Text.unitOrder (entry k) (entry l) = false

/-- **The labels of a set are kept in their order,** whatever order they are given in. -/
theorem key_eq_joined {labels : Labels} {ls : List (String × String)} (same : labels.defined.Perm ls)
    (ascending : ls.Pairwise Before) : labels.key = joined ls := by
  have entries : (labels.filterMap fun l => l.2.map fun v => l.1 ++ "=" ++ v) = labels.defined.map entry := by
    rw [defined, List.map_filterMap]
    refine congrArg (fun f => List.filterMap f labels) (funext fun l => ?_)
    cases l.2 <;> rfl
  have sorted : (ls.map entry).Pairwise fun s t => Text.unitOrder s t = true :=
    List.pairwise_map.2 (ascending.imp fun before => before.1)
  have reordered : ((labels.defined.map entry).mergeSort Text.unitOrder).Perm (ls.map entry) :=
    (List.mergeSort_perm _ _).trans (same.map entry)
  -- Two entries that stand before each other are one: two labels of the set are ordered one way only.
  have one_way : ∀ l ∈ ls, ∀ k ∈ ls, Text.unitOrder (entry l) (entry k) = true →
      Text.unitOrder (entry k) (entry l) = true → entry l = entry k := by
    intro l l_there k k_there
    exact List.Pairwise.forall_of_forall_of_flip
      (R := fun l k => Text.unitOrder (entry l) (entry k) = true →
        Text.unitOrder (entry k) (entry l) = true → entry l = entry k)
      (fun l _ _ _ => rfl)
      (ascending.imp fun before _ back => absurd back (by rw [before.2]; decide))
      (ascending.imp fun before forth _ => absurd forth (by rw [before.2]; decide)) l_there k_there
  have kept : (labels.defined.map entry).mergeSort Text.unitOrder = ls.map entry := by
    have ordered := @List.pairwise_mergeSort _ Text.unitOrder (fun _ _ _ => Text.unitsLe_trans)
      (fun s t => Text.unitsLe_total (Text.units s) (Text.units t)) (labels.defined.map entry)
    refine List.Perm.eq_of_pairwise ?_ ordered sorted reordered
    intro s t s_there t_there
    obtain ⟨l, l_there, rfl⟩ := List.mem_map.1 (reordered.mem_iff.1 s_there)
    obtain ⟨k, k_there, rfl⟩ := List.mem_map.1 t_there
    exact one_way l l_there k k_there
  rw [key, entries, kept, joined]

/-! ### Labels that survive -/

/-- A value that is cut nowhere and needs no escape but that of quotes: it has no comma, equals sign,
backslash or line feed. -/
def isPlain (value : String) : Bool := value.toList.all fun c => c ≠ ',' && c ≠ '=' && c ≠ '\\' && c ≠ '\n'

theorem not_mem_of_isPlain {value : String} (plain : isPlain value = true) :
    ',' ∉ value.toList ∧ '=' ∉ value.toList ∧ '\\' ∉ value.toList ∧ '\n' ∉ value.toList := by
  simp only [isPlain, List.all_eq_true, Bool.and_eq_true, decide_eq_true_eq] at plain
  refine ⟨fun there => ?_, fun there => ?_, fun there => ?_, fun there => ?_⟩
  all_goals simpa using plain _ there

/-- The characters of a name are letters, digits and underscores. -/
theorem isPlain_of_isName {name : String} (named : isName name.toList = true) : isPlain name = true := by
  have each : ∀ c ∈ name.toList, goesOn ['_'] c = true := by
    cases chars : name.toList with
    | nil => simp
    | cons d ds =>
      rw [chars, isName, Bool.and_eq_true, List.all_eq_true] at named
      refine List.forall_mem_cons.2 ⟨?_, named.2⟩
      have first := named.1
      simp only [goesOn, Bool.or_eq_true, Bool.and_eq_true] at first ⊢
      simpa using first.imp id fun digit => absurd digit.2 (by decide)
  rw [isPlain, List.all_eq_true]
  intro c there
  have known := each c there
  by_cases special : c = ',' ∨ c = '=' ∨ c = '\\' ∨ c = '\n'
  · rcases special with rfl | rfl | rfl | rfl <;> exact absurd known (by decide)
  · simpa [and_assoc] using special

/-- A label with a name and a plain value. -/
structure Plain (l : String × String) : Prop where
  name : isName l.1.toList = true
  value : isPlain l.2 = true

theorem Plain.legible {l : String × String} (plain : Plain l) : Legible l :=
  ⟨plain.name, (not_mem_of_isPlain plain.value).2.2.1⟩

/-- An entry is cut into the name and the value. -/
theorem pieces_entry {l : String × String} (plain : Plain l) : Text.pieces (· = '=') (entry l) = [l.1, l.2] := by
  have name := not_mem_of_isPlain (isPlain_of_isName plain.name)
  have value := not_mem_of_isPlain plain.value
  rw [Text.pieces_eq_iff]
  refine ⟨by simp, ?_, ?_⟩
  · simp [entry]
  · simpa using ⟨name.2.1, value.2.1⟩

/-- The text of a set is cut into its entries. -/
theorem pieces_joined {ls : List (String × String)} (some_there : ls ≠ []) (plain : ∀ l ∈ ls, Plain l) :
    Text.pieces (· = ',') (joined ls) = ls.map entry := by
  rw [Text.pieces_eq_iff]
  refine ⟨by simpa using some_there, ?_, ?_⟩
  · rw [joined, String.toList_intercalate]
    rfl
  · intro s there
    obtain ⟨l, l_there, rfl⟩ := List.mem_map.1 there
    have name := not_mem_of_isPlain (isPlain_of_isName (plain l l_there).name)
    have value := not_mem_of_isPlain (plain l l_there).value
    simpa [entry] using ⟨name.1, value.1⟩

/-- **The labels are found again in the text that keeps them.** -/
theorem read_joined {ls : List (String × String)} (some_there : ls ≠ []) (plain : ∀ l ∈ ls, Plain l) :
    read (joined ls) = ls := by
  rw [read, pieces_joined some_there plain, List.map_map]
  refine (List.map_congr_left fun l there => ?_).trans (List.map_id ls)
  rw [Function.comp_apply, pieces_entry (plain l there)]
  rfl

/-- **What a collector gets is what its grammar wants.** -/
theorem render_joined {ls : List (String × String)} (some_there : ls ≠ []) (plain : ∀ l ∈ ls, Plain l) :
    render (joined ls) = writtenLabels ls := by
  have filled : joined ls ≠ "" := by
    intro empty
    have cut : [""] = ls.map entry := by rw [← pieces_joined some_there plain, empty]; rfl
    obtain ⟨l, -, same⟩ := List.mem_map.1 (cut ▸ List.mem_singleton_self "")
    have equals : '=' ∈ (entry l).toList := by simp [entry]
    rw [same] at equals
    cases equals
  rw [render, if_neg filled, pieces_joined some_there plain, List.map_map, writtenLabels]
  refine congrArg (String.intercalate ",") (List.map_congr_left fun l there => ?_)
  rw [Function.comp_apply, renderPair, pieces_entry (plain l there)]
  rfl

end Labels

end BearerGate
