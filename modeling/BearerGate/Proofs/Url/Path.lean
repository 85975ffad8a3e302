import BearerGate.Proofs.Text.Pieces
import BearerGate.Proofs.Url.Escape
import BearerGate.Url.Basic

/-!
# Paths

The segments of a path stand for themselves (`PlainSegment`): cut at its slashes the text of a path gives them
(`piecesBy_segmentsText`), and carried out they are the path (`pushSegments_of_plain`).  Whatever else is carried
out on a path, its segments stay such segments (`plain_pushSegments`); an escape in a segment never makes it one of
the dots (`isSingleDot_encode`, `isDoubleDot_encode`).
-/

namespace BearerGate.Url

open Percent

/-! ### Dots -/

theorem isSingleDot_iff {segment : List Char} :
    isSingleDot segment = true ↔
      segment.map Char.toLower = ['.'] ∨ segment.map Char.toLower = ['%', '2', 'e'] := by
  have chars : ∀ cs : List Char, String.ofList (segment.map Char.toLower) = String.ofList cs ↔
      segment.map Char.toLower = cs := fun cs => by rw [String.ofList_inj]
  have texts : isSingleDot segment = true ↔ String.ofList (segment.map Char.toLower) = String.ofList ['.'] ∨
      String.ofList (segment.map Char.toLower) = String.ofList ['%', '2', 'e'] := by
    rw [isSingleDot, List.contains_iff_mem]
    simp only [List.mem_cons, List.not_mem_nil, or_false]
  rw [texts, chars, chars]

theorem isDoubleDot_iff {segment : List Char} :
    isDoubleDot segment = true ↔
      segment.map Char.toLower = ['.', '.'] ∨ segment.map Char.toLower = ['.', '%', '2', 'e'] ∨
        segment.map Char.toLower = ['%', '2', 'e', '.'] ∨
        segment.map Char.toLower = ['%', '2', 'e', '%', '2', 'e'] := by
  have chars : ∀ cs : List Char, String.ofList (segment.map Char.toLower) = String.ofList cs ↔
      segment.map Char.toLower = cs := fun cs => by rw [String.ofList_inj]
  have texts : isDoubleDot segment = true ↔ String.ofList (segment.map Char.toLower) = String.ofList ['.', '.'] ∨
      String.ofList (segment.map Char.toLower) = String.ofList ['.', '%', '2', 'e'] ∨
      String.ofList (segment.map Char.toLower) = String.ofList ['%', '2', 'e', '.'] ∨
      String.ofList (segment.map Char.toLower) = String.ofList ['%', '2', 'e', '%', '2', 'e'] := by
    rw [isDoubleDot, List.contains_iff_mem]
    simp only [List.mem_cons, List.not_mem_nil, or_false]
  rw [texts, chars, chars, chars, chars]

/-- In the dots every escape is that of a dot. -/
theorem escape_of_dots {segment : List Char} (dots : isSingleDot segment = true ∨ isDoubleDot segment = true)
    {a b : Char} (there : ['%', a, b] <:+: segment.map Char.toLower) : a = '2' ∧ b = 'e' := by
  rw [isSingleDot_iff, isDoubleDot_iff] at dots
  rcases dots with (same | same) | same | same | same | same
  all_goals
    rw [same] at there
    simp_all [List.infix_cons_iff]

/-- No escape of a character stands for a dot, unless the character is one. -/
theorem byte_ne_dot {c : Char} (other : c ≠ '.') {b : UInt8} (member : b ∈ Text.Utf8.encode (String.ofList [c])) :
    b.toNat ≠ 0x2e := by
  rw [Text.Utf8.encode_ofList, List.flatMap_cons, List.flatMap_nil, List.append_nil] at member
  by_cases ascii : c.toNat < 0x80
  · rw [Text.Utf8.encodeChar_ascii ascii, List.mem_singleton] at member
    rw [member, Text.Utf8.toNat_ofNat (by omega)]
    intro dot
    refine other ?_
    rw [← Char.ofNat_toNat c, dot]
  · have wide := Text.Utf8.mem_encodeChar (Nat.not_lt.1 ascii) member
    omega

theorem infix_flatMap {α β : Type} {x : α} {xs : List α} (member : x ∈ xs) (f : α → List β) :
    f x <:+: xs.flatMap f := by
  obtain ⟨before, after, rfl⟩ := List.append_of_mem member
  exact ⟨before.flatMap f, after.flatMap f, by simp⟩

/-- **A segment is not made a dot by its escapes.** -/
theorem plain_of_dots {segment : List Char}
    (dots : isSingleDot (encode inPath segment) = true ∨ isDoubleDot (encode inPath segment) = true) :
    encode inPath segment = segment := by
  refine encode_eq_self fun c member => Bool.eq_false_iff.2 fun escaped => ?_
  have other : c ≠ '.' := by
    rintro rfl
    exact absurd escaped (by decide)
  -- The character is written with at least one byte, and with the escape of that byte in the text.
  obtain ⟨b, written⟩ : ∃ b, b ∈ Text.Utf8.encode (String.ofList [c]) := by
    rw [Text.Utf8.encode_ofList, List.flatMap_cons, List.flatMap_nil, List.append_nil]
    exact List.exists_mem_of_ne_nil _ String.utf8EncodeChar_ne_nil
  have inside : escapeByte b <:+: encode inPath segment := by
    have own : escapeByte b <:+: escapeChar c := infix_flatMap written escapeByte
    have whole : escapeChar c <:+: encode inPath segment := by
      have part := infix_flatMap member fun c => if inPath c then escapeChar c else [c]
      rw [if_pos escaped] at part
      exact part
    exact own.trans whole
  obtain ⟨first, second⟩ := escape_of_dots dots (inside.map Char.toLower)
  have digits : ∀ n < 16, ((upperHex n).toLower = '2' → n = 2) ∧ ((upperHex n).toLower = 'e' → n = 14) := by decide
  have small : b.toNat < 256 := UInt8.toNat_lt b
  have high := (digits (b.toNat / 16) (by omega)).1 first
  have low := (digits (b.toNat % 16) (by omega)).2 second
  exact byte_ne_dot other written (by omega)

theorem isSingleDot_encode {segment : List Char} (single : isSingleDot segment = false) :
    isSingleDot (encode inPath segment) = false := by
  refine Bool.eq_false_iff.2 fun dot => ?_
  rw [plain_of_dots (.inl dot), single] at dot
  cases dot

theorem isDoubleDot_encode {segment : List Char} (double : isDoubleDot segment = false) :
    isDoubleDot (encode inPath segment) = false := by
  refine Bool.eq_false_iff.2 fun dots => ?_
  rw [plain_of_dots (.inr dots), double] at dots
  cases dots

/-! ### Plain segments -/

/-- **A segment that stands for itself:** no slash, no dots, and nothing that has to be escaped. -/
structure PlainSegment (s : String) : Prop where
  fine : ∀ c ∈ s.toList, inPath c = false
  whole : ∀ c ∈ s.toList, isSlash true c = false
  single : isSingleDot s.toList = false
  double : isDoubleDot s.toList = false

theorem plain_empty : PlainSegment "" where
  fine := by
    intro c member
    cases member
  whole := by
    intro c member
    cases member
  single := by decide
  double := by decide

/-- What is kept of a segment that is neither of the dots is a plain one. -/
theorem plain_encode {segment : List Char} (whole : ∀ c ∈ segment, isSlash true c = false)
    (single : isSingleDot segment = false) (double : isDoubleDot segment = false) :
    PlainSegment (String.ofList (encode inPath segment)) where
  fine := by
    intro c member
    rw [String.toList_ofList] at member
    exact not_escaped_of_mem_encode escapable_inPath member
  whole := by
    intro c member
    rw [String.toList_ofList] at member
    refine Bool.eq_false_iff.2 fun slash => ?_
    -- No slash is a part of an escape, so it would have been in the segment.
    have other : c ≠ '%' ∧ ∀ n < 16, c ≠ upperHex n := by
      constructor
      · rintro rfl
        exact absurd slash (by decide)
      · intro n small same
        have digits : ∀ n < 16, isSlash true (upperHex n) = false := by decide
        rw [same, digits n small] at slash
        cases slash
    have there := whole c (mem_of_mem_encode other member)
    rw [there] at slash
    cases slash
  single := by
    rw [String.toList_ofList]
    exact isSingleDot_encode single
  double := by
    rw [String.toList_ofList]
    exact isDoubleDot_encode double

/-! ### Carrying out segments

Schemes other than `file` have no drives. -/

section NotFile

variable {scheme : String} (not_file : scheme ≠ "file")
include not_file

theorem shorten_eq (path : List String) : shorten scheme path = path.dropLast := by
  unfold shorten
  split
  · rw [if_neg fun file => not_file file.1]
    rfl
  · rfl

/-- A segment that is neither of the dots is added to the path. -/
theorem pushSegment_of_not_dots {segment : List Char} (single : isSingleDot segment = false)
    (double : isDoubleDot segment = false) (path : List String) (last : Bool) :
    pushSegment scheme path segment last = path ++ [String.ofList (encode inPath segment)] := by
  rw [pushSegment, if_neg (by rw [double]; decide), if_neg (by rw [single]; decide)]
  exact if_neg fun file => not_file file.1

/-- A segment that is neither of the dots is added before the others are carried out. -/
theorem pushSegments_cons_of_not_dots {segment : List Char} (single : isSingleDot segment = false)
    (double : isDoubleDot segment = false) (path : List String) (rest : List (List Char)) :
    pushSegments scheme path (segment :: rest) =
      pushSegments scheme (path ++ [String.ofList (encode inPath segment)]) rest := by
  have first := pushSegment_of_not_dots not_file single double path
  cases rest with
  | nil => exact first true
  | cons next rest =>
    rw [← first false]
    rfl

/-- **Plain segments are added as they are.** -/
theorem pushSegments_of_plain {segments : List String} (plain : ∀ s ∈ segments, PlainSegment s) (path : List String) :
    pushSegments scheme path (segments.map String.toList) = path ++ segments := by
  induction segments generalizing path with
  | nil => exact (List.append_nil path).symm
  | cons s segments ih =>
    have first := plain s List.mem_cons_self
    rw [List.map_cons, pushSegments_cons_of_not_dots not_file first.single first.double, encode_eq_self first.fine,
      String.ofList_toList, ih fun t member => plain t (List.mem_cons_of_mem s member), List.append_assoc]
    rfl

/-- What is carried out on plain segments leaves plain segments. -/
theorem plain_pushSegment {path : List String} (plain : ∀ s ∈ path, PlainSegment s) {segment : List Char}
    (whole : ∀ c ∈ segment, isSlash true c = false) (last : Bool) :
    ∀ s ∈ pushSegment scheme path segment last, PlainSegment s := by
  have ended : ∀ path : List String, (∀ s ∈ path, PlainSegment s) → ∀ s ∈ path ++ [""], PlainSegment s := by
    intro path plain s member
    rcases List.mem_append.1 member with before | empty
    · exact plain s before
    · rw [List.mem_singleton.1 empty]
      exact plain_empty
  have shortened : ∀ s ∈ shorten scheme path, PlainSegment s := by
    intro s member
    rw [shorten_eq not_file] at member
    exact plain s (List.mem_of_mem_dropLast member)
  by_cases double : isDoubleDot segment = true
  · rw [pushSegment, if_pos double]
    dsimp only
    split
    · exact ended _ shortened
    · exact shortened
  by_cases single : isSingleDot segment = true
  · rw [pushSegment, if_neg double, if_pos single]
    split
    · exact ended _ plain
    · exact plain
  · rw [Bool.not_eq_true] at double single
    rw [pushSegment_of_not_dots not_file single double]
    intro s member
    rcases List.mem_append.1 member with before | new
    · exact plain s before
    · rw [List.mem_singleton.1 new]
      exact plain_encode whole single double

/-- **Whatever is carried out, the segments stay plain.** -/
theorem plain_pushSegments {path : List String} (plain : ∀ s ∈ path, PlainSegment s) {pieces : List (List Char)}
    (whole : ∀ piece ∈ pieces, ∀ c ∈ piece, isSlash true c = false) :
    ∀ s ∈ pushSegments scheme path pieces, PlainSegment s := by
  induction pieces generalizing path with
  | nil => exact plain
  | cons piece pieces ih =>
    have first := plain_pushSegment not_file plain (whole piece List.mem_cons_self)
    cases pieces with
    | nil => exact first true
    | cons next pieces => exact ih (first false) fun piece member => whole piece (List.mem_cons_of_mem _ member)

end NotFile

/-- The path of a special scheme is never empty. -/
theorem pushSegments_ne_nil {scheme : String} (special : isSpecial scheme = true) {pieces : List (List Char)}
    (some_pieces : pieces ≠ []) (path : List String) : pushSegments scheme path pieces ≠ [] := by
  induction pieces generalizing path with
  | nil => exact absurd rfl some_pieces
  | cons piece pieces ih =>
    cases pieces with
    | cons next pieces => exact ih (List.cons_ne_nil _ _) _
    | nil =>
      change pushSegment scheme path piece true ≠ []
      rw [pushSegment]
      by_cases double : isDoubleDot piece = true
      · rw [if_pos double]
        dsimp only
        rw [if_pos ⟨rfl, .inl special⟩]
        simp
      · rw [if_neg double]
        by_cases single : isSingleDot piece = true
        · rw [if_pos single, if_pos rfl]
          simp
        · rw [if_neg single]
          dsimp only
          split <;> simp

/-! ### The text of a path -/

/-- The text of a path with segments. -/
def segmentsText (segments : List String) : List Char := segments.flatMap fun s => '/' :: s.toList

theorem toList_pathText {u : Url} {segments : List String} (path : u.path = .segments segments) :
    u.pathText.toList = segmentsText segments := by
  rw [pathText, path]
  change (String.join (segments.map ("/" ++ ·))).toList = segmentsText segments
  rw [String.toList_join, List.flatMap_map]
  simp only [String.toList_append]
  rfl

theorem segmentsText_append (first rest : List String) :
    segmentsText (first ++ rest) = segmentsText first ++ segmentsText rest := List.flatMap_append

/-- Cut at its slashes, the text of a path gives its segments. -/
theorem piecesBy_segmentsText {segments : List String} (whole : ∀ s ∈ segments, ∀ c ∈ s.toList, isSlash true c = false)
    {s : String} (first : ∀ c ∈ s.toList, isSlash true c = false) :
    Text.piecesBy (isSlash true) (s.toList ++ segmentsText segments) = (s :: segments).map String.toList := by
  induction segments generalizing s with
  | nil =>
    rw [segmentsText, List.flatMap_nil, List.append_nil]
    exact Text.piecesBy_eq_singleton first
  | cons t segments ih =>
    have slash : isSlash true '/' = true := rfl
    change Text.piecesBy (isSlash true) (s.toList ++ '/' :: (t.toList ++ segmentsText segments)) = _
    rw [Text.piecesBy_append_cons first slash, ih (fun u member => whole u (List.mem_cons_of_mem t member))
      (whole t List.mem_cons_self)]
    rfl

end BearerGate.Url
