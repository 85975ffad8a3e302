import BearerGate.Proofs.Url.Rereading

/-!
# Addresses below a base

A text that starts like a path is resolved below a base: its scheme, its user, its host and its port are those of the
base, whatever the text goes on with (`parse?_below`).  How far its path may leave the path of the base is another
matter.  What a text carries out on a path keeps a start of it if it never goes up above that (`StaysBelow`,
`pushSegments_below`).
-/

namespace BearerGate.Url

open Percent

/-! ### Cleaning -/

/-- The part of a text after its first characters, cleaned at its end and inside. -/
def cleanedTail (cs : List Char) : List Char :=
  ((cs.reverse.dropWhile isOuterBlank).reverse).filter fun c => c ≠ '\t' && c ≠ '\n' && c ≠ '\r'

/-- **Cleaning leaves visible characters at the start alone.** -/
theorem cleaned_append {start : List Char} (filled : start ≠ []) (visible : ∀ c ∈ start, 0x20 < c.toNat)
    (rest : List Char) : cleaned (String.ofList (start ++ rest)) = start ++ cleanedTail rest := by
  have seen : ∀ c ∈ start, isOuterBlank c = false := fun c member => decide_eq_false (Nat.not_le.2 (visible c member))
  have front : ∀ more : List Char, (start ++ more).dropWhile isOuterBlank = start ++ more := by
    intro more
    obtain ⟨c, cs, rfl⟩ := List.exists_cons_of_ne_nil filled
    exact List.dropWhile_cons_of_neg (by rw [seen c List.mem_cons_self]; decide)
  have back : (start ++ rest).reverse.dropWhile isOuterBlank =
      rest.reverse.dropWhile isOuterBlank ++ start.reverse := by
    have kept : start.reverse.dropWhile isOuterBlank = start.reverse := by
      obtain ⟨c, cs, reversed⟩ := List.exists_cons_of_ne_nil fun empty => filled (List.reverse_eq_nil_iff.1 empty)
      have member : c ∈ start := List.mem_reverse.1 (by rw [reversed]; exact List.mem_cons_self)
      rw [reversed, List.dropWhile_cons_of_neg (by rw [seen c member]; decide)]
    rw [List.reverse_append, List.dropWhile_append]
    split
    · rename_i empty
      rw [kept, List.isEmpty_iff.1 empty, List.nil_append]
    · rfl
  have inner : start.filter (fun c => c ≠ '\t' && c ≠ '\n' && c ≠ '\r') = start := by
    refine List.filter_eq_self.2 fun c member => ?_
    have here := visible c member
    have blanks : ['\t', '\n', '\r'].all (fun d => decide (d.toNat ≤ 0x20)) = true := by decide
    have other : ∀ d ∈ ['\t', '\n', '\r'], c ≠ d := by
      rintro d blank rfl
      have low := of_decide_eq_true (List.all_eq_true.1 blanks c blank)
      omega
    simp [other '\t' (by simp), other '\n' (by simp), other '\r' (by simp)]
  rw [cleaned, Text.trimChars, String.toList_ofList, front, back, List.reverse_append, List.reverse_reverse,
    List.filter_append, inner, cleanedTail]

/-! ### Resolving -/

/-- What an address takes over from the base that it is resolved against. -/
def below (root : Url) (path : List String) (query fragment : Option String) : Url :=
  { root with path := .segments path, query, fragment }

/-- **A text that starts like a path is resolved below the base.** -/
theorem parse?_of_front {root : Url} (web : IsWeb root.scheme) {segments : List String}
    (rooted : root.path = .segments segments) {text : String} {front : List Char} {query fragment : Option (List Char)}
    (cut : cleaned text = (front ++ tailText '?' query) ++ tailText '#' fragment)
    (no_fragment : '#' ∉ front ++ tailText '?' query) (no_query : '?' ∉ front) (unschemed : takeScheme? front = none)
    {c : Char} {cs : List Char} (start : front = c :: cs) (inside : isSlash true c = false) :
    parse? text (some root) = some (below root (extendPath root.scheme segments.dropLast front)
      (query.map fun q => String.ofList (encode inSpecialQuery q))
      (fragment.map fun f => String.ofList (encode inFragment f))) := by
  have resolved : ∀ hasQuery, relative? root front hasQuery =
      some (below root (extendPath root.scheme segments.dropLast front) none none) := by
    intro hasQuery
    unfold relative?
    rw [start, web.special]
    dsimp only
    rw [inside, if_neg Bool.false_ne_true, relative?.onHost, segmentsOf, rooted, shorten_eq web.not_file]
    rfl
  rw [parse?_of_parts cut no_fragment no_query, ofParts?, unschemed]
  dsimp only
  rw [rooted]
  dsimp only
  rw [if_neg web.not_file, resolved, Option.map_some]
  have escaped : ∀ path : List String, (if isSpecial (below root path none none).scheme = true then inSpecialQuery
      else inQuery) = inSpecialQuery := fun _ => if_pos web.special
  have unasked : ∀ path : List String, (below root path none none).query = none := fun _ => rfl
  rw [escaped, unasked, Option.or_none]
  rfl

/-- A text whose first characters can belong to a scheme, with a slash after them, has none. -/
theorem takeScheme?_eq_none {word : List Char}
    (letters : word.all (fun c => c.isAlphanum || c = '+' || c = '-' || c = '.') = true) (rest : List Char) :
    takeScheme? (word ++ '/' :: rest) = none := by
  have all : ∀ c ∈ word, (c.isAlphanum || decide (c = '+') || decide (c = '-') || decide (c = '.')) = true :=
    fun c member => List.all_eq_true.1 letters c member
  have taken : (word ++ '/' :: rest).takeWhile
      (fun c => c.isAlphanum || decide (c = '+') || decide (c = '-') || decide (c = '.')) = word := by
    rw [List.takeWhile_append_of_pos all, List.takeWhile_cons_of_neg (by decide), List.append_nil]
  unfold takeScheme?
  dsimp only
  rw [taken, List.drop_left]
  split
  · rename_i same
    cases same
  · rfl

/-- The first word of the paths that are called below a base. -/
def apiWord : List Char := ['a', 'p', 'i']

/-- That word is a segment of its own. -/
theorem piecesBy_apiWord (front : List Char) : Text.piecesBy (isSlash true) (apiWord ++ '/' :: front) =
    apiWord :: Text.piecesBy (isSlash true) front := by
  have all : apiWord.all (fun c => !isSlash true c) = true := by decide
  have whole : ∀ c ∈ apiWord, isSlash true c = false := by
    intro c member
    have here := List.all_eq_true.1 all c member
    rw [Bool.not_eq_true'] at here
    exact here
  have slash : isSlash true '/' = true := rfl
  exact Text.piecesBy_append_cons whole slash front

/-- **The address below a base** for a path below `api`: what the path is cut into does not depend on the base. -/
theorem parse?_below (rest : List Char) :
    ∃ front query fragment, cleanedTail rest = (front ++ tailText '?' query) ++ tailText '#' fragment ∧
      '#' ∉ front ++ tailText '?' query ∧ '?' ∉ front ∧
      ∀ {root : Url} {segments : List String}, IsWeb root.scheme → root.path = .segments segments →
        parse? (String.ofList (apiWord ++ '/' :: rest)) (some root) =
          some (below root (extendPath root.scheme segments.dropLast (apiWord ++ '/' :: front))
            (query.map fun q => String.ofList (encode inSpecialQuery q))
            (fragment.map fun f => String.ofList (encode inFragment f))) := by
  obtain ⟨early, fragment, cut, no_fragment⟩ := exists_tail '#' (cleanedTail rest)
  obtain ⟨front, query, rfl, no_query⟩ := exists_tail '?' early
  refine ⟨front, query, fragment, cut, no_fragment, no_query, ?_⟩
  intro root segments web rooted
  have visible : ∀ c ∈ apiWord ++ ['/'], 0x20 < c.toNat := by
    have all : (apiWord ++ ['/']).all (fun c => decide (0x20 < c.toNat)) = true := by decide
    exact fun c member => of_decide_eq_true (List.all_eq_true.1 all c member)
  have clean : cleaned (String.ofList (apiWord ++ '/' :: rest)) =
      (apiWord ++ '/' :: front ++ tailText '?' query) ++ tailText '#' fragment := by
    have split_off : apiWord ++ '/' :: rest = (apiWord ++ ['/']) ++ rest := by simp
    rw [split_off, cleaned_append (by decide) visible, cut]
    simp
  have other : ∀ {opening : Char} {cs : List Char}, (apiWord ++ ['/']).contains opening = false → opening ∉ cs →
      opening ∉ apiWord ++ '/' :: cs := by
    intro opening cs outside absent member
    have split_off : apiWord ++ '/' :: cs = (apiWord ++ ['/']) ++ cs := by simp
    rw [split_off] at member
    rcases List.mem_append.1 member with first | later
    · rw [List.contains_iff_mem.2 first] at outside
      cases outside
    · exact absent later
  have no_fragment' : '#' ∉ apiWord ++ '/' :: front ++ tailText '?' query := by
    have joined : apiWord ++ '/' :: front ++ tailText '?' query = apiWord ++ '/' :: (front ++ tailText '?' query) := by
      simp
    rw [joined]
    exact other (by decide) no_fragment
  exact parse?_of_front web rooted clean no_fragment' (other (by decide) no_query)
    (takeScheme?_eq_none (by decide) front) rfl (by decide)

/-! ### Staying below -/

/-- **Segments that never lead up above where they start,** given how far below it they are. -/
def StaysBelow : (depth : Nat) → List (List Char) → Prop
  | _, [] => True
  | depth, segment :: rest =>
    if isDoubleDot segment then 0 < depth ∧ StaysBelow (depth - 1) rest
    else if isSingleDot segment then StaysBelow depth rest
    else StaysBelow (depth + 1) rest

instance decidableStaysBelow : (depth : Nat) → (pieces : List (List Char)) → Decidable (StaysBelow depth pieces)
  | _, [] => inferInstanceAs (Decidable True)
  | depth, segment :: rest =>
    have _ := decidableStaysBelow (depth - 1) rest
    have _ := decidableStaysBelow depth rest
    have _ := decidableStaysBelow (depth + 1) rest
    inferInstanceAs (Decidable (if isDoubleDot segment then 0 < depth ∧ StaysBelow (depth - 1) rest
      else if isSingleDot segment then StaysBelow depth rest else StaysBelow (depth + 1) rest))

/-- **What stays below a path keeps it.** -/
theorem pushSegments_below {scheme : String} (not_file : scheme ≠ "file") (start : List String)
    {pieces : List (List Char)} {path : List String} (stays : StaysBelow path.length pieces) :
    ∃ more, pushSegments scheme (start ++ path) pieces = start ++ more := by
  -- One segment keeps the start, and how far below it leads is as `StaysBelow` counts.
  have one : ∀ (path : List String) (segment : List Char) (last : Bool),
      (isDoubleDot segment = true → 0 < path.length) →
      ∃ more, pushSegment scheme (start ++ path) segment last = start ++ more ∧ (last = false → more.length =
        if isDoubleDot segment then path.length - 1 else if isSingleDot segment then path.length
        else path.length + 1) := by
    intro path segment last up
    by_cases double : isDoubleDot segment = true
    · have some_path : path ≠ [] := List.length_pos_iff.1 (up double)
      have shortened : shorten scheme (start ++ path) = start ++ path.dropLast := by
        rw [shorten_eq not_file, List.dropLast_append_of_ne_nil some_path]
      rw [pushSegment, if_pos double]
      dsimp only
      rw [shortened, if_pos double]
      split
      · rename_i ended
        refine ⟨path.dropLast ++ [""], List.append_assoc _ _ _, fun more => ?_⟩
        rw [more] at ended
        cases ended.1
      · exact ⟨path.dropLast, rfl, fun _ => List.length_dropLast⟩
    by_cases single : isSingleDot segment = true
    · rw [pushSegment, if_neg double, if_pos single, if_neg double, if_pos single]
      split
      · rename_i ended
        refine ⟨path ++ [""], List.append_assoc _ _ _, fun more => ?_⟩
        rw [more] at ended
        cases ended
      · exact ⟨path, rfl, fun _ => rfl⟩
    · rw [if_neg double, if_neg single]
      rw [Bool.not_eq_true] at double single
      rw [pushSegment_of_not_dots not_file single double, List.append_assoc]
      exact ⟨_, rfl, fun _ => by simp⟩
  induction pieces generalizing path with
  | nil => exact ⟨path, rfl⟩
  | cons piece pieces ih =>
    have up : isDoubleDot piece = true → 0 < path.length := by
      intro double
      rw [StaysBelow, if_pos double] at stays
      exact stays.1
    cases pieces with
    | nil =>
      obtain ⟨more, pushed, -⟩ := one path piece true up
      exact ⟨more, pushed⟩
    | cons next pieces =>
      obtain ⟨more, pushed, depth⟩ := one path piece false up
      have later : StaysBelow more.length (next :: pieces) := by
        rw [depth rfl]
        rw [StaysBelow] at stays
        split at stays
        · rename_i double
          rw [if_pos double]
          exact stays.2
        · rename_i double
          rw [if_neg double]
          split at stays
          · rename_i single
            rw [if_pos single]
            exact stays
          · rename_i single
            rw [if_neg single]
            exact stays
      change ∃ more, pushSegments scheme (pushSegment scheme (start ++ path) piece false) (next :: pieces) = _
      rw [pushed]
      exact ih later

end BearerGate.Url
