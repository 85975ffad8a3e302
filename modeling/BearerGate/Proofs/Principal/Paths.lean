import BearerGate.Principal.Roles
import BearerGate.Proofs.Text.Distinct
import BearerGate.Proofs.Text.Pieces
import BearerGate.Proofs.Text.Trim
import Mathlib.Data.List.Perm.Basic

/-!
# The role paths of a setting

A setting names role paths with commas or bars between them.  What is left of its pieces when they are trimmed and
the blank ones are dropped are its **alternatives**; its role paths are those, each once, where they first occur.

They are a normal form.  However they are written down again, with any separators and any blanks around them
(`Writes`), they are read as the same list.  And as a caller holds a role if one of the paths leads to it, the order
of the alternatives and how often they are repeated say nothing about the roles.
-/

namespace BearerGate

/-! ### Alternatives -/

/-- **The alternatives among the pieces of a setting:** trimmed, without blank ones. -/
def alternatives (pieces : List String) : List String := (pieces.map Text.trim).filter (· ≠ "")

/-- **A role path by itself:** something, with nothing to trim and no separator. -/
structure RolePath (path : String) : Prop where
  filled : path ≠ ""
  trimmed : Text.Trimmed path
  whole : ∀ c ∈ path.toList, c ≠ ',' ∧ c ≠ '|'

/-- The pieces that a setting is made up of. -/
abbrev PiecesOf (setting : String) (pieces : List String) : Prop :=
  Text.Cut isPathSeparator setting.toList (pieces.map String.toList)

theorem rolePaths_eq {setting : String} {pieces : List String} (made : PiecesOf setting pieces) :
    rolePaths setting = Text.distinct (alternatives pieces) := by
  rw [rolePaths, Text.pieces_eq_iff_cut.2 made]
  rfl

theorem isPathSeparator_eq_false {c : Char} : isPathSeparator c = false ↔ c ≠ ',' ∧ c ≠ '|' := by
  simp only [isPathSeparator, Bool.or_eq_false_iff, decide_eq_false_iff_not]
  exact and_comm

/-- **Every role path of a setting** is one by itself. -/
theorem rolePath_of_mem {setting path : String} (member : path ∈ rolePaths setting) : RolePath path := by
  rw [rolePaths, Text.mem_distinct] at member
  obtain ⟨there, filled⟩ := List.mem_filter.1 member
  obtain ⟨piece, inside, rfl⟩ := List.mem_map.1 there
  obtain ⟨cs, cut, rfl⟩ := List.mem_map.1 inside
  refine ⟨of_decide_eq_true filled, Text.trimmed_trim _, fun c kept => ?_⟩
  obtain ⟨front, back, -, -, padded⟩ := Text.exists_padding (String.ofList cs)
  rw [String.toList_ofList] at padded
  have own : c ∈ cs := by
    rw [padded]
    exact List.mem_append_right _ (List.mem_append_left _ kept)
  exact isPathSeparator_eq_false.1 (Text.not_sep_of_mem_piecesBy cut c own).2

/-! ### Writing paths down -/

/-- A character that stands between paths. -/
def isIdle (c : Char) : Bool := Text.isBlank c || isPathSeparator c

/-- **A text that begins where a path has ended:** after blanks it is over, or a separator stands there. -/
def Parted (text : List Char) : Prop :=
  ∃ blanks tail, (∀ c ∈ blanks, Text.isBlank c = true) ∧ (∀ c ∈ tail.head?, isPathSeparator c = true) ∧
    text = blanks ++ tail

/-- **A text that writes paths down:** in their order, with blanks and separators around them, and at least one
separator between one and the next. -/
inductive Writes : (paths : List String) → (text : List Char) → Prop
  | nothing {gap : List Char} (idle : ∀ c ∈ gap, isIdle c = true) : Writes [] gap
  | path {front rest : List Char} {path : String} {paths : List String} (idle : ∀ c ∈ front, isIdle c = true)
    (parted : Parted rest) (others : Writes paths rest) : Writes (path :: paths) (front ++ (path.toList ++ rest))

/-- The alternatives of a text. -/
private def alternativesIn (text : List Char) : List String :=
  alternatives ((Text.piecesBy isPathSeparator text).map String.ofList)

private theorem rolePaths_eq_distinct (setting : String) :
    rolePaths setting = Text.distinct (alternativesIn setting.toList) := rfl

private theorem alternatives_cons (piece : String) (pieces : List String) :
    alternatives (piece :: pieces) =
      if Text.trim piece = "" then alternatives pieces else Text.trim piece :: alternatives pieces := by
  rw [alternatives, List.map_cons, List.filter_cons]
  split
  · rename_i filled
    rw [if_neg (of_decide_eq_true filled)]
    rfl
  · rename_i empty
    rw [if_pos (by simpa using empty)]
    rfl

/-- A blank is no separator. -/
theorem not_sep_of_isBlank {c : Char} (blank : Text.isBlank c = true) : isPathSeparator c = false := by
  rw [isPathSeparator_eq_false]
  constructor
  · rintro rfl
    exact absurd blank (by decide)
  · rintro rfl
    exact absurd blank (by decide)

/-- What stands between paths does not change the alternatives. -/
private theorem alternativesIn_append_idle {front : List Char} (idle : ∀ c ∈ front, isIdle c = true)
    (text : List Char) : alternativesIn (front ++ text) = alternativesIn text := by
  have one : ∀ {c : Char} (text : List Char), isIdle c = true → alternativesIn (c :: text) = alternativesIn text := by
    intro c text idle
    cases sep : isPathSeparator c with
    | true =>
      rw [alternativesIn, Text.piecesBy_cons_of_sep sep, List.map_cons, alternatives_cons, if_pos (by decide)]
      rfl
    | false =>
      have blank : ∀ d ∈ [c], Text.isBlank d = true := by
        rw [isIdle, sep, Bool.or_false] at idle
        exact List.forall_mem_singleton.2 idle
      obtain ⟨p, ps, rest⟩ := List.exists_cons_of_ne_nil (Text.piecesBy_ne_nil isPathSeparator text)
      have same : Text.trim (String.ofList (c :: p)) = Text.trim (String.ofList p) := Text.trim_append_left blank p
      rw [alternativesIn, alternativesIn, Text.piecesBy_cons_of_not_sep sep rest, rest, List.map_cons, List.map_cons,
        alternatives_cons, alternatives_cons, same]
  induction front with
  | nil => rfl
  | cons c front ih =>
    have here := List.forall_mem_cons.1 idle
    rw [List.cons_append, one _ here.1, ih here.2]

/-- A path is an alternative of its own where it has ended. -/
private theorem alternativesIn_path {path : String} (known : RolePath path) {rest : List Char} (parted : Parted rest) :
    alternativesIn (path.toList ++ rest) = path :: alternativesIn rest := by
  obtain ⟨blanks, tail, blank, sep, rfl⟩ := parted
  have whole : ∀ c ∈ path.toList ++ blanks, isPathSeparator c = false := by
    intro c member
    rcases List.mem_append.1 member with own | after
    · exact isPathSeparator_eq_false.2 (known.whole c own)
    · exact not_sep_of_isBlank (blank c after)
  have trimmed : Text.trim (String.ofList (path.toList ++ blanks)) = path := by
    rw [Text.trim_append_right blank, String.ofList_toList, known.trimmed.trim_eq]
  have passed : alternativesIn (blanks ++ tail) = alternativesIn tail :=
    alternativesIn_append_idle (fun c member => by rw [isIdle, blank c member, Bool.true_or]) tail
  rw [passed, ← List.append_assoc]
  cases tail with
  | nil =>
    rw [List.append_nil, alternativesIn, Text.piecesBy_eq_singleton whole, List.map_singleton, alternatives_cons,
      trimmed, if_neg known.filled]
    rfl
  | cons c tail =>
    have ends : isPathSeparator c = true := sep c rfl
    have idle : ∀ d ∈ [c], isIdle d = true := List.forall_mem_singleton.2 (by rw [isIdle, ends, Bool.or_true])
    have next : alternativesIn (c :: tail) = alternativesIn tail := alternativesIn_append_idle idle tail
    rw [next, alternativesIn, Text.piecesBy_append_cons whole ends, List.map_cons, alternatives_cons, trimmed,
      if_neg known.filled]
    rfl

/-- **A text that writes paths down** has them for its alternatives. -/
private theorem alternativesIn_of_writes {paths : List String} {text : List Char} (writes : Writes paths text)
    (known : ∀ path ∈ paths, RolePath path) : alternativesIn text = paths := by
  induction writes with
  | @nothing gap idle =>
    rw [← List.append_nil gap, alternativesIn_append_idle idle]
    rfl
  | path idle parted _ ih =>
    obtain ⟨own, others⟩ := List.forall_mem_cons.1 known
    rw [alternativesIn_append_idle idle, alternativesIn_path own parted, ih others]

/-- **Role paths that are written down are read again,** each once. -/
theorem rolePaths_of_writes {paths : List String} {text : String} (writes : Writes paths text.toList)
    (known : ∀ path ∈ paths, RolePath path) : rolePaths text = Text.distinct paths := by
  rw [rolePaths_eq_distinct, alternativesIn_of_writes writes known]

/-! ### The normal form -/

/-- The roles at the ends of the same paths are the same. -/
theorem resolveRoles_perm {paths others : List String} (same : ∀ path, path ∈ paths ↔ path ∈ others) (claims : Json) :
    (resolveRoles claims paths).Perm (resolveRoles claims others) := by
  have once : ∀ paths, (resolveRoles claims paths).Nodup := fun _ => Text.nodup_distinct _
  refine (List.perm_ext_iff_of_nodup (once paths) (once others)).2 fun role => ?_
  rw [resolveRoles, resolveRoles, Text.mem_distinct, Text.mem_distinct]
  simp only [List.mem_flatMap, same]

/-- **The role paths of a setting are a normal form of it.**  They are role paths by themselves, none of them twice;
they are its alternatives in the order of their first occurrence; written down in any way they are read again as they
are; and a setting with the same alternatives, in whatever order and however often, gives callers the same roles. -/
theorem rolePaths_normal (setting : String) :
    (∀ path ∈ rolePaths setting, RolePath path) ∧ (rolePaths setting).Nodup ∧
    (∃ pieces, PiecesOf setting pieces ∧ (∀ path, path ∈ rolePaths setting ↔ path ∈ alternatives pieces) ∧
      (rolePaths setting).Pairwise fun p q => (alternatives pieces).idxOf p < (alternatives pieces).idxOf q) ∧
    (∀ text : String, Writes (rolePaths setting) text.toList → rolePaths text = rolePaths setting) ∧
    ∀ other pieces others, PiecesOf setting pieces → PiecesOf other others →
      (∀ path, path ∈ alternatives pieces ↔ path ∈ alternatives others) →
      ∀ claims, (resolveRoles claims (rolePaths setting)).Perm (resolveRoles claims (rolePaths other)) := by
  have known : ∀ path ∈ rolePaths setting, RolePath path := fun path => rolePath_of_mem
  have once : (rolePaths setting).Nodup := Text.nodup_distinct _
  refine ⟨known, once, ?_, ?_, ?_⟩
  · have made : PiecesOf setting (Text.pieces isPathSeparator setting) := Text.pieces_eq_iff_cut.1 rfl
    refine ⟨_, made, fun path => ?_, ?_⟩
    · rw [rolePaths_eq made, Text.mem_distinct]
    · rw [rolePaths_eq made]
      exact Text.pairwise_distinct _
  · intro text writes
    rw [rolePaths_of_writes writes known, Text.distinct_eq_self once]
  · intro other pieces others made made' same claims
    refine resolveRoles_perm (fun path => ?_) claims
    rw [rolePaths_eq made, rolePaths_eq made', Text.mem_distinct, Text.mem_distinct, same]

/-- A setting with a repeated alternative, written down again with other separators and blanks, and a setting with
its alternatives in another order. -/
theorem rolePaths_normal_of_repeats :
    rolePaths "roles | realm.roles,, roles" = ["roles", "realm.roles"] ∧
      Writes (rolePaths "roles | realm.roles,, roles") "\u00a0roles\t||,realm.roles ,".toList ∧
      rolePaths "\u00a0roles\t||,realm.roles ," = ["roles", "realm.roles"] ∧
      "auditor" ∈ resolveRoles (.object [("roles", .string "auditor")]) (rolePaths "realm.roles|roles|realm.roles") := by
  have read : rolePaths "roles | realm.roles,, roles" = ["roles", "realm.roles"] := by decide +kernel
  obtain ⟨-, -, -, again, freely⟩ := rolePaths_normal "roles | realm.roles,, roles"
  have writes : Writes (rolePaths "roles | realm.roles,, roles") "\u00a0roles\t||,realm.roles ,".toList := by
    rw [read]
    have last : Writes ["realm.roles"] (['\t', '|', '|', ','] ++ ("realm.roles".toList ++ [' ', ','])) :=
      .path (List.all_eq_true.1 rfl) ⟨[' '], [','], List.all_eq_true.1 rfl, fun c first => by cases first; rfl, rfl⟩
        (.nothing (List.all_eq_true.1 rfl))
    have first : Writes ["roles", "realm.roles"]
        (['\u00a0'] ++ ("roles".toList ++ (['\t', '|', '|', ','] ++ ("realm.roles".toList ++ [' ', ','])))) :=
      .path (List.all_eq_true.1 rfl) ⟨['\t'], _, List.all_eq_true.1 rfl, fun c first => by cases first; rfl, rfl⟩ last
    exact first
  refine ⟨read, writes, (again _ writes).trans read, ?_⟩
  have same : ∀ path, path ∈ alternatives ["roles ", " realm.roles", "", " roles"] ↔
      path ∈ alternatives ["realm.roles", "roles", "realm.roles"] := by
    intro path
    have left : alternatives ["roles ", " realm.roles", "", " roles"] = ["roles", "realm.roles", "roles"] := by
      decide +kernel
    have right : alternatives ["realm.roles", "roles", "realm.roles"] = ["realm.roles", "roles", "realm.roles"] := by
      decide +kernel
    rw [left, right]
    simp only [List.mem_cons, List.not_mem_nil, or_false]
    tauto
  have perm := freely "realm.roles|roles|realm.roles" ["roles ", " realm.roles", "", " roles"]
    ["realm.roles", "roles", "realm.roles"] (Text.pieces_eq_iff_cut.1 (by decide +kernel))
    (Text.pieces_eq_iff_cut.1 (by decide +kernel)) same (.object [("roles", .string "auditor")])
  refine perm.mem_iff.1 ?_
  rw [read]
  decide +kernel

end BearerGate
