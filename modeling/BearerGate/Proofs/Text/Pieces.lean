import BearerGate.Text.Blank
import Mathlib.Data.List.TakeWhile

/-!
# Cutting and joining

`Text.pieces` cuts a text at every separator.  The pieces are pinned down by the way in which they make up the
text: none of them has a separator in it, and one separator stands after each but the last (`Cut`, `pieces_eq_iff_cut`).
For a single separator that is to say that they are the text when they are joined by it; `pieces_eq_iff` says so, and
`pieces_eq_three_iff` is its reading for three pieces.
-/

namespace BearerGate.Text

/-- A separator ends an empty piece, -/
theorem piecesBy_cons_of_sep {sep : Char → Bool} {c : Char} (cut : sep c = true) (cs : List Char) :
    piecesBy sep (c :: cs) = [] :: piecesBy sep cs := if_pos cut

/-- and any other character goes in front of the first piece. -/
theorem piecesBy_cons_of_not_sep {sep : Char → Bool} {c : Char} (whole : sep c = false) {cs p : List Char}
    {ps : List (List Char)} (rest : piecesBy sep cs = p :: ps) : piecesBy sep (c :: cs) = (c :: p) :: ps := by
  refine (if_neg (Bool.eq_false_iff.1 whole)).trans ?_
  rw [rest]

/-- Cutting at a class of characters is the library's cut. -/
theorem piecesBy_eq_splitOnP (sep : Char → Bool) (cs : List Char) :
    piecesBy sep cs = cs.splitOnP sep := by
  induction cs with
  | nil => rfl
  | cons c cs ih =>
    rw [List.splitOnP_cons_eq_if_modifyHead, ← ih]
    split
    · rename_i cut
      exact piecesBy_cons_of_sep cut cs
    · rename_i whole
      cases rest : piecesBy sep cs with
      | nil =>
        rw [ih] at rest
        exact absurd rest (List.splitOnP_ne_nil sep cs)
      | cons p ps => exact piecesBy_cons_of_not_sep (Bool.eq_false_iff.2 whole) rest

theorem piecesBy_eq_splitOn (c : Char) (cs : List Char) : piecesBy (· = c) cs = cs.splitOn c := by
  rw [piecesBy_eq_splitOnP, List.splitOn_eq_splitOnP]
  rfl

/-- A text without separators is one piece. -/
theorem piecesBy_eq_singleton {sep : Char → Bool} {cs : List Char} (whole : ∀ c ∈ cs, sep c = false) :
    piecesBy sep cs = [cs] := by
  induction cs with
  | nil => rfl
  | cons c cs ih =>
    have first : sep c = false := whole c List.mem_cons_self
    have rest := ih fun d member => whole d (List.mem_cons_of_mem c member)
    exact piecesBy_cons_of_not_sep first rest

/-- The first piece ends at the first separator. -/
theorem piecesBy_append_cons {sep : Char → Bool} {piece : List Char} (whole : ∀ c ∈ piece, sep c = false) {c : Char}
    (cut : sep c = true) (cs : List Char) : piecesBy sep (piece ++ c :: cs) = piece :: piecesBy sep cs := by
  induction piece with
  | nil => exact piecesBy_cons_of_sep cut cs
  | cons d piece ih =>
    have first : sep d = false := whole d List.mem_cons_self
    have rest := ih fun e member => whole e (List.mem_cons_of_mem d member)
    exact piecesBy_cons_of_not_sep first rest

theorem piecesBy_ne_nil (sep : Char → Bool) (cs : List Char) : piecesBy sep cs ≠ [] := by
  rw [piecesBy_eq_splitOnP]
  exact List.splitOnP_ne_nil sep cs

/-- No piece has a separator in it. -/
theorem not_sep_of_mem_piecesBy {sep : Char → Bool} {cs piece : List Char} (there : piece ∈ piecesBy sep cs) :
    ∀ c ∈ piece, c ∈ cs ∧ sep c = false := by
  induction cs generalizing piece with
  | nil =>
    intro c member
    rw [List.mem_singleton.1 there] at member
    cases member
  | cons d ds ih =>
    intro c member
    cases cut : sep d with
    | true =>
      rw [piecesBy_cons_of_sep cut] at there
      rcases List.mem_cons.1 there with rfl | later
      · cases member
      · exact ⟨List.mem_cons_of_mem d (ih later c member).1, (ih later c member).2⟩
    | false =>
      obtain ⟨p, ps, pieces⟩ := List.exists_cons_of_ne_nil (piecesBy_ne_nil sep ds)
      rw [piecesBy_cons_of_not_sep cut pieces] at there
      rw [pieces] at ih
      rcases List.mem_cons.1 there with rfl | later
      · rcases List.mem_cons.1 member with rfl | rest
        · exact ⟨List.mem_cons_self, cut⟩
        · have known := ih List.mem_cons_self c rest
          exact ⟨List.mem_cons_of_mem d known.1, known.2⟩
      · have known := ih (List.mem_cons_of_mem p later) c member
        exact ⟨List.mem_cons_of_mem d known.1, known.2⟩

/-! ### Cuts -/

/-- **A text made up of pieces:** no separator in any of them, and one after each but the last. -/
inductive Cut (sep : Char → Bool) : (text : List Char) → (pieces : List (List Char)) → Prop
  | last {piece : List Char} (whole : ∀ c ∈ piece, sep c = false) : Cut sep piece [piece]
  | next {piece rest : List Char} {c : Char} {pieces : List (List Char)} (whole : ∀ d ∈ piece, sep d = false)
    (cut : sep c = true) (others : Cut sep rest pieces) : Cut sep (piece ++ c :: rest) (piece :: pieces)

theorem cut_piecesBy (sep : Char → Bool) (cs : List Char) : Cut sep cs (piecesBy sep cs) := by
  induction cs with
  | nil => exact .last fun c member => by cases member
  | cons c cs ih =>
    cases here : sep c with
    | true =>
      rw [piecesBy_cons_of_sep here]
      have nothing : ∀ d ∈ ([] : List Char), sep d = false := fun d member => by cases member
      exact .next nothing here ih
    | false =>
      have longer : ∀ {piece : List Char}, (∀ d ∈ piece, sep d = false) → ∀ d ∈ c :: piece, sep d = false :=
        fun whole => List.forall_mem_cons.2 ⟨here, whole⟩
      generalize rest : piecesBy sep cs = pieces at ih
      cases ih with
      | last whole =>
        rw [piecesBy_cons_of_not_sep here rest]
        exact .last (longer whole)
      | next whole cut others =>
        rw [piecesBy_cons_of_not_sep here rest]
        exact .next (longer whole) cut others

/-- **The pieces of a text** are the one way to make it up of pieces. -/
theorem piecesBy_eq_iff_cut {sep : Char → Bool} {cs : List Char} {ps : List (List Char)} :
    piecesBy sep cs = ps ↔ Cut sep cs ps := by
  constructor
  · rintro rfl
    exact cut_piecesBy sep cs
  · intro made
    induction made with
    | last whole => exact piecesBy_eq_singleton whole
    | next whole cut _ ih => rw [piecesBy_append_cons whole cut, ih]

theorem pieces_eq_iff_cut {sep : Char → Bool} {s : String} {ps : List String} :
    pieces sep s = ps ↔ Cut sep s.toList (ps.map String.toList) := by
  rw [← piecesBy_eq_iff_cut, pieces]
  constructor
  · rintro rfl
    simp
  · intro same
    rw [same, List.map_map]
    simp

/-! ### A single separator -/

section First

variable {c : Char} {front : List Char} (absent : c ∉ front) (rest : List Char)
include absent

private theorem takeWhile_first : (front ++ c :: rest).takeWhile (· ≠ c) = front := by
  have all : ∀ d ∈ front, decide (d ≠ c) = true := fun d member => decide_eq_true fun same => absent (same ▸ member)
  rw [List.takeWhile_append_of_pos all, List.takeWhile_cons_of_neg (by simp), List.append_nil]

private theorem dropWhile_first : (front ++ c :: rest).dropWhile (· ≠ c) = c :: rest := by
  have all : ∀ d ∈ front, decide (d ≠ c) = true := fun d member => decide_eq_true fun same => absent (same ▸ member)
  rw [List.dropWhile_append_of_pos all, List.dropWhile_cons_of_neg (by simp)]

end First

/-- A list is split at the first occurrence of a character in one way. -/
theorem split_unique {c : Char} {front front' rest rest' : List Char} (absent : c ∉ front) (absent' : c ∉ front')
    (same : front ++ c :: rest = front' ++ c :: rest') : front = front' ∧ rest = rest' := by
  have fronts : front = front' := by rw [← takeWhile_first absent rest, same, takeWhile_first absent' rest']
  have rests : c :: rest = c :: rest' := by rw [← dropWhile_first absent rest, same, dropWhile_first absent' rest']
  exact ⟨fronts, (List.cons.inj rests).2⟩

/-- **Dropping a start:** the text is the start and what is left. -/
theorem dropStart?_eq_some_iff {start text rest : List Char} :
    dropStart? start text = some rest ↔ text = start ++ rest := by
  induction start generalizing text with
  | nil => exact ⟨fun same => Option.some.inj same, fun same => congrArg some same⟩
  | cons a start ih =>
    cases text with
    | nil => simp [dropStart?]
    | cons c text =>
      rw [dropStart?, List.cons_append, List.cons.injEq]
      split
      · rename_i same
        rw [ih, and_iff_right same.symm]
      · rename_i other
        exact ⟨nofun, fun same => absurd same.1.symm other⟩

/-- **Splitting at the first occurrence of a character.** -/
theorem splitFirst?_eq_some_iff {c : Char} {s front rest : String} :
    splitFirst? c s = some (front, rest) ↔ s.toList = front.toList ++ c :: rest.toList ∧ c ∉ front.toList := by
  have found : ∀ {front rest : List Char}, s.toList = front ++ c :: rest → c ∉ front →
      splitFirst? c s = some (.ofList front, .ofList rest) := by
    intro front rest split absent
    unfold splitFirst? before
    rw [split, dropWhile_first absent, takeWhile_first absent]
  constructor
  · intro read
    by_cases there : c ∈ s.toList
    · obtain ⟨front', rest', split, absent⟩ := List.eq_append_cons_of_mem there
      rw [found split absent] at read
      cases read
      rw [String.toList_ofList, String.toList_ofList]
      exact ⟨split, absent⟩
    · have nothing : s.toList.dropWhile (· ≠ c) = [] := by
        rw [List.dropWhile_eq_nil_iff]
        exact fun d member => decide_eq_true fun same => there (same ▸ member)
      unfold splitFirst? at read
      rw [nothing] at read
      cases read
  · rintro ⟨split, absent⟩
    rw [found split absent, String.ofList_toList, String.ofList_toList]

/-- No piece of a cut has the separator in it. -/
theorem not_mem_of_mem_splitOn {c : Char} {cs p : List Char} (h : p ∈ cs.splitOn c) : c ∉ p := by
  induction cs generalizing p with
  | nil =>
    have : p = [] := by simpa using h
    simp [this]
  | cons d ds ih =>
    rw [List.splitOn_cons_eq_if_modifyHead] at h
    split at h
    · rcases List.mem_cons.1 h with rfl | h
      · simp
      · exact ih h
    · rename_i differs
      -- The first piece grows by this character; all others are pieces of the rest.
      cases cut : ds.splitOn c with
      | nil => exact absurd cut (List.splitOn_ne_nil c ds)
      | cons q qs =>
        rw [cut, List.modifyHead_cons] at h
        rcases List.mem_cons.1 h with rfl | h
        · have tail := ih (p := q) (by simp [cut])
          simp only [beq_iff_eq] at differs
          simp [tail, Ne.symm differs]
        · exact ih (by simp [cut, h])

/-- **Cutting undoes joining.**  The pieces of a text are the one way to write it as texts without the
separator that are joined by it. -/
theorem pieces_eq_iff {c : Char} {s : String} {ps : List String} :
    pieces (· = c) s = ps ↔
      ps ≠ [] ∧ [c].intercalate (ps.map String.toList) = s.toList ∧ ∀ p ∈ ps, c ∉ p.toList := by
  have as_chars : (pieces (· = c) s).map String.toList = s.toList.splitOn c := by
    rw [pieces, List.map_map, piecesBy_eq_splitOn]
    simp
  constructor
  · rintro rfl
    refine ⟨?_, ?_, ?_⟩
    · intro none_there
      rw [none_there] at as_chars
      exact List.splitOn_ne_nil c s.toList as_chars.symm
    · rw [as_chars, List.intercalate_splitOn]
    · intro p member
      have piece : p.toList ∈ s.toList.splitOn c := by
        rw [← as_chars]
        exact List.mem_map_of_mem member
      exact not_mem_of_mem_splitOn piece
  · rintro ⟨ne, joined, without⟩
    have cut : s.toList.splitOn c = ps.map String.toList := by
      rw [← joined]
      apply List.splitOn_intercalate
      · simpa using without
      · simpa using ne
    rw [pieces, piecesBy_eq_splitOn, cut, List.map_map]
    simp

/-- Three pieces, and what they are pieces of. -/
theorem pieces_eq_three_iff {c : Char} {s x y z : String} :
    pieces (· = c) s = [x, y, z] ↔
      s = x ++ String.singleton c ++ y ++ String.singleton c ++ z ∧
        c ∉ x.toList ∧ c ∉ y.toList ∧ c ∉ z.toList := by
  rw [pieces_eq_iff, ← String.toList_inj, eq_comm (a := s.toList)]
  simp

end BearerGate.Text
