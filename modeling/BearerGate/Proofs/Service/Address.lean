import BearerGate.Proofs.Url.Below
import BearerGate.Proofs.Url.Rereading
import BearerGate.Service.Client

/-!
# Addresses of calls

The address of a call is read twice: first the base, as a directory (`exists_root`), then the path of the call
below it.  For a path that starts with `/api/` nothing that follows can lead away from the base: the address has its
scheme, its host and its port, and if it cannot be built, that is because the host of the base cannot be read again
(`joinUrl?_eq`).
-/

namespace BearerGate

open Url

/-- Two addresses that are reached over the same connections. -/
structure Url.SameOrigin (u v : Url) : Prop where
  scheme : u.scheme = v.scheme
  host : u.host = v.host
  port : u.port = v.port

/-- The segments of a base as a directory: an empty one at the end, which a slash there leaves, is not one of
them. -/
def directory (segments : List String) : List String :=
  if segments.getLast? = some "" then segments.dropLast else segments

/-! ### The base as a directory -/

/-- The text of a path ends with a slash if its last segment is empty, and only then. -/
theorem getLast?_segmentsText {segments : List String} (rooted : segments ≠ [])
    (plain : ∀ s ∈ segments, PlainSegment s) :
    (segmentsText segments).getLast? = some '/' ↔ segments.getLast? = some "" := by
  obtain ⟨front, last, rfl⟩ : ∃ front last, segments = front ++ [last] :=
    ⟨_, _, (List.dropLast_append_getLast rooted).symm⟩
  have whole := (plain last (by simp)).whole
  have text : segmentsText (front ++ [last]) = segmentsText front ++ '/' :: last.toList := by
    rw [segmentsText_append]
    exact congrArg _ (List.append_nil _)
  rw [text, List.getLast?_append_cons, List.getLast?_concat, Option.some.injEq]
  constructor
  · intro slash
    cases chars : last.toList with
    | nil => exact String.toList_inj.1 chars
    | cons c cs =>
      rw [chars, List.getLast?_cons_cons] at slash
      have member : '/' ∈ last.toList := by
        rw [chars]
        exact List.mem_of_getLast? slash
      exact absurd (whole '/' member) (by decide)
  · rintro rfl
    rfl

/-- **The base as a directory** is an address of the web at the same place. -/
theorem exists_root {base : Url} {host : List Char} {segments : List String} (web : Web base host segments) :
    ∃ root inside, Web root host inside ∧ root.SameOrigin base ∧
      (if base.href.toList.getLast? = some '/' then base.href else base.href ++ "/") = root.href ∧
      (base.query = none → base.fragment = none → inside.dropLast = directory segments) := by
  have bare : base.query = none → base.fragment = none → base.href.toList = frontText base host segments := by
    intro unasked unmarked
    rw [toList_href web, unasked, unmarked]
    simp [tailText]
  have ends : base.query = none → base.fragment = none →
      (base.href.toList.getLast? = some '/' ↔ segments.getLast? = some "") := by
    intro unasked unmarked
    have filled : segmentsText segments ≠ [] := by
      obtain ⟨s, rest, cut⟩ := List.exists_cons_of_ne_nil web.rooted
      rw [cut]
      exact List.cons_ne_nil _ _
    have last : (frontText base host segments).getLast? = (segmentsText segments).getLast? := by
      have regroup : frontText base host segments =
          (base.scheme.toList ++ ':' :: '/' :: '/' :: authority base host) ++ segmentsText segments := by
        rw [frontText]
        simp
      rw [regroup, List.getLast?_append_of_ne_nil _ filled]
    rw [bare unasked unmarked, last]
    exact getLast?_segmentsText web.rooted web.plain
  by_cases closed : base.href.toList.getLast? = some '/'
  · refine ⟨base, segments, web, ⟨rfl, rfl, rfl⟩, if_pos closed, fun unasked unmarked => ?_⟩
    rw [directory, if_pos ((ends unasked unmarked).1 closed)]
  rw [if_neg closed]
  -- The slash goes to the end of the last part that there is.
  have slashed : ∀ {root : Url} {inside : List String}, Web root host inside →
      root.href.toList = base.href.toList ++ ['/'] → base.href ++ "/" = root.href := by
    intro root inside _ text
    rw [← String.toList_inj, String.toList_append, text]
    rfl
  have longer : ∀ {escaped : Char → Bool} {text : String}, escaped '/' = false →
      (∀ c ∈ text.toList, escaped c = false) → ∀ c ∈ (text ++ "/").toList, escaped c = false := by
    intro escaped text slash fine c member
    rw [String.toList_append] at member
    rcases List.mem_append.1 member with own | new
    · exact fine c own
    · rw [List.mem_singleton.1 new]
      exact slash
  cases marked : base.fragment with
  | some f =>
    have fragment : ∀ g, some (f ++ "/") = some g → ∀ c ∈ g.toList, Percent.inFragment c = false := by
      intro g same
      rw [← Option.some.inj same]
      exact longer (by decide) (web.fragment f marked)
    have web' : Web { base with fragment := some (f ++ "/") } host segments := { web with fragment }
    refine ⟨_, segments, web', ⟨rfl, rfl, rfl⟩, slashed web' ?_, fun _ unmarked => by cases unmarked⟩
    rw [toList_href web', toList_href web, marked]
    simp [tailText, frontText, authority, userText, portText]
  | none =>
    cases asked : base.query with
    | some q =>
      have query : ∀ g, some (q ++ "/") = some g → ∀ c ∈ g.toList, Percent.inSpecialQuery c = false := by
        intro g same
        rw [← Option.some.inj same]
        exact longer (by decide) (web.query q asked)
      have web' : Web { base with query := some (q ++ "/") } host segments := { web with query }
      refine ⟨_, segments, web', ⟨rfl, rfl, rfl⟩, slashed web' ?_, fun unasked _ => by cases unasked⟩
      rw [toList_href web', toList_href web, marked, asked]
      simp [tailText, frontText, authority, userText, portText]
    | none =>
      have plain : ∀ s ∈ segments ++ [""], PlainSegment s := by
        intro s member
        rcases List.mem_append.1 member with own | new
        · exact web.plain s own
        · rw [List.mem_singleton.1 new]
          exact plain_empty
      have web' : Web { base with path := .segments (segments ++ [""]) } host (segments ++ [""]) :=
        { web with path := rfl, rooted := by simp, plain }
      refine ⟨_, segments ++ [""], web', ⟨rfl, rfl, rfl⟩, slashed web' ?_, fun _ _ => ?_⟩
      · rw [toList_href web', bare asked marked, asked, marked, frontText, segmentsText_append]
        simp [tailText, frontText, authority, userText, portText, segmentsText]
      · have filled : segments.getLast? ≠ some "" := fun empty => closed ((ends asked marked).2 empty)
        rw [directory, if_neg filled, List.dropLast_concat]

/-! ### The path below it -/

/-- What stands before the rest of a path that is called. -/
def apiStart : List Char := '/' :: apiWord ++ ['/']

/-- **The address of a call** with a path below `/api/`: that of the base, with the path and the query of the call
below its directory.  It cannot be built if the host of the base cannot be read again. -/
theorem joinUrl?_eq {base : Url} {host : List Char} {segments : List String} (web : Web base host segments)
    (rest : List Char) :
    ∃ root inside front query fragment, SameOrigin root base ∧
      (base.query = none → base.fragment = none → inside = directory segments) ∧
      cleanedTail rest = (front ++ tailText '?' query) ++ tailText '#' fragment ∧
      '#' ∉ front ++ tailText '?' query ∧ '?' ∉ front ∧
      joinUrl? base (String.ofList (apiStart ++ rest)) = (Host.parse? true host).map fun h =>
        below { root with host := some h } (extendPath base.scheme inside (apiWord ++ '/' :: front))
          (query.map fun q => String.ofList (Percent.encode Percent.inSpecialQuery q))
          (fragment.map fun f => String.ofList (Percent.encode Percent.inFragment f)) := by
  obtain ⟨root, inside, web', same, text, dir⟩ := exists_root web
  obtain ⟨front, query, fragment, cut, no_fragment, no_query, resolved⟩ := parse?_below rest
  refine ⟨root, inside.dropLast, front, query, fragment, same, dir, cut, no_fragment, no_query, ?_⟩
  have path : ((String.ofList (apiStart ++ rest)).toList.dropWhile (· = '/')) = apiWord ++ '/' :: rest := by
    have chars : (String.ofList (apiStart ++ rest)).toList = apiStart ++ rest := String.toList_ofList
    rw [chars]
    rfl
  delta joinUrl?
  dsimp only
  rw [text, path, web'.parse?_href]
  cases read : Host.parse? true host with
  | none => rfl
  | some h =>
    have scheme : IsWeb ({ root with host := some h } : Url).scheme := web'.scheme
    have rooted : ({ root with host := some h } : Url).path = .segments inside := web'.path
    rw [Option.map_some, Option.map_some]
    dsimp only
    rw [resolved scheme rooted, ← same.scheme]

end BearerGate
