import BearerGate.Proofs.Url.Web

/-!
# Reading an address again

The text of an address of the web is cut where it was put together: at its question mark and its number sign, at the
colon after its scheme, at the first slash after its authority, at the last `@` in there and at the colon before the
port.  So it is read as the same address again, up to its host: that is read from the text of the host
(`parse?_href`).
-/

namespace BearerGate.Url

open Percent

/-! ### The text, part by part -/

/-- The user in front of the host. -/
def userText (u : Url) : List Char :=
  if u.username = "" ∧ u.password = "" then []
  else u.username.toList ++ (if u.password = "" then [] else ':' :: u.password.toList) ++ ['@']

/-- The port behind the host. -/
def portText (u : Url) : List Char := tailText ':' (u.port.map Number.digitsOf)

/-- What stands between the slashes and the path. -/
def authority (u : Url) (host : List Char) : List Char := userText u ++ (host ++ portText u)

/-- The text of an address without its query and its fragment. -/
def frontText (u : Url) (host : List Char) (segments : List String) : List Char :=
  u.scheme.toList ++ ':' :: '/' :: '/' :: (authority u host ++ segmentsText segments)

theorem toList_authorityText {u : Url} {host : List Char} (named : u.host = some (String.ofList host)) :
    u.authorityText.toList = '/' :: '/' :: authority u host := by
  have ported : ((u.port.map fun p => ":" ++ toString p).getD "").toList = portText u := by
    rw [portText]
    cases u.port with
    | none => rfl
    | some p =>
      rw [Option.map_some, Option.getD_some, String.toList_append]
      rfl
  have user : (if u.username = "" ∧ u.password = "" then ""
      else u.username ++ (if u.password = "" then "" else ":" ++ u.password) ++ "@").toList = userText u := by
    rw [userText]
    split
    · rfl
    · rw [String.toList_append, String.toList_append]
      split
      · rfl
      · rw [String.toList_append]
        rfl
  have hosted : (String.ofList host).toList = host := String.toList_ofList
  rw [authorityText]
  dsimp only
  rw [named]
  dsimp only
  rw [String.toList_append, String.toList_append, String.toList_append, user, ported, hosted, List.append_assoc,
    List.append_assoc]
  rfl

/-- **The text of an address of the web.** -/
theorem toList_href {u : Url} {host : List Char} {segments : List String} (web : Web u host segments) :
    u.href.toList = (frontText u host segments ++ tailText '?' (u.query.map String.toList)) ++
      tailText '#' (u.fragment.map String.toList) := by
  have tail : ∀ (opening : Char) (opened : String) (part : Option String), opened.toList = [opening] →
      ((part.map (opened ++ ·)).getD "").toList = tailText opening (part.map String.toList) := by
    intro opening opened part single
    cases part with
    | none => rfl
    | some text =>
      rw [Option.map_some, Option.getD_some, String.toList_append, single]
      rfl
  rw [href, String.toList_append, String.toList_append, String.toList_append, String.toList_append,
    String.toList_append, toList_authorityText web.named, toList_pathText web.path, tail '?' "?" u.query rfl,
    tail '#' "#" u.fragment rfl, frontText]
  simp

/-! ### What is in it -/

section Parts

variable {u : Url} {host : List Char} {segments : List String} (web : Web u host segments)
include web

/-- Every character of an authority is visible, and none of them ends it. -/
theorem Web.mem_authority {c : Char} (member : c ∈ authority u host) :
    0x20 < c.toNat ∧ c ∉ ['/', '\\', '?', '#'] := by
  have user_part : ∀ {d : Char}, inUserInfo d = false → 0x20 < d.toNat ∧ d ∉ ['/', '\\', '?', '#'] := by
    intro d plain
    refine ⟨(escapable_inUserInfo.visible plain).1, fun ends => ?_⟩
    have all : ['/', '\\', '?', '#'].all inUserInfo = true := by decide
    rw [List.all_eq_true.1 all d ends] at plain
    cases plain
  rw [authority] at member
  rcases List.mem_append.1 member with user | rest
  · rw [userText] at user
    split at user
    · cases user
    · rcases List.mem_append.1 user with named | at_sign
      · rcases List.mem_append.1 named with name | secret
        · exact user_part (web.username c name)
        · split at secret
          · cases secret
          · rcases List.mem_cons.1 secret with rfl | password
            · decide
            · exact user_part (web.password c password)
      · rw [List.mem_singleton.1 at_sign]
        decide
  · rcases List.mem_append.1 rest with own | port
    · have inside := web.hostText.inside c own
      simp only [List.mem_cons, List.not_mem_nil, or_false, not_or] at inside ⊢
      exact ⟨web.hostText.visible c own, inside.1, inside.2.1, inside.2.2.1, inside.2.2.2.1⟩
    · rw [portText] at port
      cases given : u.port with
      | none =>
        rw [given] at port
        cases port
      | some p =>
        rw [given] at port
        rcases List.mem_cons.1 port with rfl | digit
        · decide
        · have fine := Host.plain_of_not_forbidden (Host.not_forbidden_of_isDigit (Number.isDigit_of_mem_digitsOf digit))
          have inside := fine.2.1
          simp only [List.mem_cons, List.not_mem_nil, or_false, not_or] at inside ⊢
          exact ⟨fine.1, inside.1, inside.2.1, inside.2.2.1, inside.2.2.2.1⟩

/-- The path is visible too, and opens neither query nor fragment. -/
theorem Web.mem_segmentsText {c : Char} (member : c ∈ segmentsText segments) :
    0x20 < c.toNat ∧ c ∉ ['?', '#'] := by
  obtain ⟨s, there, inside⟩ := List.mem_flatMap.1 member
  rcases List.mem_cons.1 inside with rfl | own
  · decide
  · have plain := (web.plain s there).fine c own
    refine ⟨(escapable_inPath.visible plain).1, fun opens => ?_⟩
    have all : ['?', '#'].all inPath = true := by decide
    rw [List.all_eq_true.1 all c opens] at plain
    cases plain

theorem Web.mem_frontText {c : Char} (member : c ∈ frontText u host segments) : 0x20 < c.toNat ∧ c ∉ ['?', '#'] := by
  have slashes : ['/', '/', ':'].all (fun d => decide (0x20 < d.toNat ∧ d ∉ ['?', '#'])) = true := by decide
  have letters : ∀ d ∈ u.scheme.toList, 0x20 < d.toNat ∧ d ∉ ['?', '#'] := by
    intro d there
    have all : ∀ scheme, IsWeb scheme →
        scheme.toList.all (fun d => decide (0x20 < d.toNat ∧ d ∉ ['?', '#'])) = true := by
      rintro scheme (rfl | rfl)
      · decide
      · decide
    exact of_decide_eq_true (List.all_eq_true.1 (all u.scheme web.scheme) d there)
  rw [frontText] at member
  rcases List.mem_append.1 member with scheme | rest
  · exact letters c scheme
  · simp only [List.mem_cons, List.mem_append] at rest
    rcases rest with rfl | rfl | rfl | own | path
    · decide
    · decide
    · decide
    · have known := web.mem_authority own
      have inside := known.2
      simp only [List.mem_cons, List.not_mem_nil, or_false, not_or] at inside ⊢
      exact ⟨known.1, inside.2.2.1, inside.2.2.2⟩
    · exact web.mem_segmentsText path

/-- **Nothing of the text is cleaned away.** -/
theorem Web.cleaned_href : cleaned u.href = u.href.toList := by
  have visible : ∀ c ∈ u.href.toList, 0x20 < c.toNat := by
    intro c member
    rw [toList_href web] at member
    rcases List.mem_append.1 member with front | fragment
    · rcases List.mem_append.1 front with own | query
      · exact (web.mem_frontText own).1
      · cases asked : u.query with
        | none =>
          rw [asked] at query
          cases query
        | some q =>
          rw [asked] at query
          rcases List.mem_cons.1 query with rfl | inside
          · decide
          · exact (escapable_inSpecialQuery.visible (web.query q asked c inside)).1
    · cases asked : u.fragment with
      | none =>
        rw [asked] at fragment
        cases fragment
      | some f =>
        rw [asked] at fragment
        rcases List.mem_cons.1 fragment with rfl | inside
        · decide
        · exact (escapable_inFragment.visible (web.fragment f asked c inside)).1
  have outer : ∀ c ∈ u.href.toList, isOuterBlank c = false := by
    intro c member
    exact decide_eq_false (Nat.not_le.2 (visible c member))
  have trimmed : Text.trimChars isOuterBlank u.href.toList = u.href.toList := by
    have nothing : ∀ cs : List Char, (∀ c ∈ cs, isOuterBlank c = false) → cs.dropWhile isOuterBlank = cs := by
      intro cs none_there
      cases cs with
      | nil => rfl
      | cons c cs => exact List.dropWhile_cons_of_neg (by rw [none_there c List.mem_cons_self]; decide)
    rw [Text.trimChars, nothing _ outer, nothing _ fun c member => outer c (List.mem_reverse.1 member),
      List.reverse_reverse]
  rw [cleaned, trimmed]
  refine List.filter_eq_self.2 fun c member => ?_
  have seen := visible c member
  have blanks : ['\t', '\n', '\r'].all (fun d => decide (d.toNat ≤ 0x20)) = true := by decide
  have other : ∀ d ∈ ['\t', '\n', '\r'], c ≠ d := by
    rintro d blank rfl
    have low := of_decide_eq_true (List.all_eq_true.1 blanks c blank)
    omega
  simp [other '\t' (by simp), other '\n' (by simp), other '\r' (by simp)]

end Parts

/-! ### Reading it -/

theorem takeScheme?_web {scheme : String} (web : IsWeb scheme) (rest : List Char) :
    takeScheme? (scheme.toList ++ ':' :: rest) = some (scheme, rest) := by
  rcases web with rfl | rfl
  · rfl
  · rfl

/-- What stands before the last occurrence of a character, and what stands after it. -/
theorem splitLast?_append {c : Char} {after : List Char} (absent : c ∉ after) (before : List Char) :
    splitLast? c (before ++ c :: after) = some (before, after) := by
  have back : (before ++ c :: after).reverse = after.reverse ++ tailText c (some before.reverse) := by
    rw [List.reverse_append, List.reverse_cons, List.append_assoc]
    rfl
  have absent' : c ∉ after.reverse := fun there => absent (List.mem_reverse.1 there)
  rw [splitLast?, back, dropWhile_tail absent', takeWhile_tail absent']
  simp [tailText]

theorem splitLast?_eq_none {c : Char} {cs : List Char} (absent : c ∉ cs) : splitLast? c cs = none := by
  have none_there := dropWhile_tail (fun there => absent (List.mem_reverse.1 there)) none
  rw [tailText, List.append_nil] at none_there
  rw [splitLast?, none_there]

section Reading

variable {u : Url} {host : List Char} {segments : List String} (web : Web u host segments)
include web

/-- The port is read again. -/
theorem Web.port?_eq : port? u.scheme ((u.port.map Number.digitsOf).getD []) = some u.port := by
  cases given : u.port with
  | none => rfl
  | some p =>
    obtain ⟨small, own⟩ := web.port p given
    have digits : (Number.digitsOf p).all Char.isDigit = true :=
      List.all_eq_true.2 fun c member => Number.isDigit_of_mem_digitsOf member
    have filled : Number.digitsOf p ≠ [] := by
      rw [Number.digitsOf_eq]
      exact Nat.toDigits_ne_nil
    rw [Option.map_some, Option.getD_some, port?, if_neg filled, if_pos digits, Number.digitsValue_digitsOf]
    dsimp only
    rw [if_neg (Nat.not_lt.2 small), if_neg own]

/-- The port is cut off where it begins. -/
theorem Web.splitPort_eq : splitPort false (host ++ portText u) = (host, u.port.map Number.digitsOf) := by
  rw [web.hostText.whole, portText]
  cases u.port with
  | none => exact congrArg (·, none) (List.append_nil host)
  | some p => exact congrArg (·, some (Number.digitsOf p)) (List.append_nil host)

/-- **The authority is read again,** but for the host. -/
theorem Web.withAuthority?_eq (path : UrlPath) :
    withAuthority? u.scheme (authority u host) path = (Host.parse? true host).map fun h =>
      { scheme := u.scheme, username := u.username, password := u.password, host := some h, port := u.port, path } := by
  have no_at : '@' ∉ host ++ portText u := by
    intro member
    rcases List.mem_append.1 member with own | port
    · exact web.hostText.inside '@' own (by decide)
    · rw [portText] at port
      cases given : u.port with
      | none =>
        rw [given] at port
        cases port
      | some p =>
        rw [given] at port
        rcases List.mem_cons.1 port with colon | digit
        · cases colon
        · exact absurd (Number.isDigit_of_mem_digitsOf digit) (by decide)
  have no_colon : ∀ {name : String}, (∀ c ∈ name.toList, inUserInfo c = false) → ':' ∉ name.toList := by
    intro name plain member
    exact absurd (plain ':' member) (by decide)
  have kept : ∀ {name : String}, (∀ c ∈ name.toList, inUserInfo c = false) →
      String.ofList (encode inUserInfo name.toList) = name := by
    intro name plain
    rw [encode_eq_self plain, String.ofList_toList]
  -- Once the user is known, the rest is the same with and without one.
  have behind : ∀ (userInfo : Option (List Char)),
      String.ofList (encode inUserInfo ((userInfo.getD []).takeWhile (· ≠ ':'))) = u.username →
      String.ofList (encode inUserInfo (((userInfo.getD []).dropWhile (· ≠ ':')).drop 1)) = u.password →
      splitLast? '@' (authority u host) = userInfo.map (·, host ++ portText u) →
      (userInfo = none → authority u host = host ++ portText u) →
      withAuthority? u.scheme (authority u host) path = (Host.parse? true host).map fun h =>
        { scheme := u.scheme, username := u.username, password := u.password, host := some h, port := u.port, path } := by
    intro userInfo username password cut plain
    rw [withAuthority?, cut]
    rcases userInfo with _ | user
    all_goals dsimp only [Option.map_none, Option.map_some]
    on_goal 1 => rw [plain rfl]
    all_goals
      rw [web.splitPort_eq]
      dsimp only
      rw [if_neg fun empty => web.hostText.filled empty.1, if_neg web.hostText.filled, web.port?_eq, username,
        password, web.scheme.special]
      cases Host.parse? true host with
      | none => rfl
      | some h => rfl
  by_cases nobody : u.username = "" ∧ u.password = ""
  · have no_user : userText u = [] := if_pos nobody
    have only_host : authority u host = host ++ portText u := by rw [authority, no_user, List.nil_append]
    refine behind none ?_ ?_ ?_ fun _ => only_host
    · rw [nobody.1]
      rfl
    · rw [nobody.2]
      rfl
    · rw [only_host]
      exact splitLast?_eq_none no_at
  · have user_eq : authority u host =
        (u.username.toList ++ tailText ':' (if u.password = "" then none else some u.password.toList)) ++
          '@' :: (host ++ portText u) := by
      rw [authority, userText, if_neg nobody, List.append_assoc]
      congr 2
      split
      · rfl
      · rfl
    refine behind
      (some (u.username.toList ++ tailText ':' (if u.password = "" then none else some u.password.toList)))
      ?_ ?_ ?_ fun none_there => by cases none_there
    · rw [Option.getD_some, takeWhile_tail (no_colon web.username), kept web.username]
    · rw [Option.getD_some, dropWhile_tail (no_colon web.username)]
      split
      · rename_i empty
        rw [empty]
        rfl
      · exact kept web.password
    · rw [user_eq]
      exact splitLast?_append no_at _

/-- The path is read again. -/
theorem Web.rootedPath_eq : rootedPath u.scheme (segmentsText segments) = .segments segments := by
  obtain ⟨s, rest, rfl⟩ := List.exists_cons_of_ne_nil web.rooted
  have whole : ∀ t ∈ s :: rest, ∀ c ∈ t.toList, isSlash true c = false := fun t there => (web.plain t there).whole
  change UrlPath.segments (extendPath u.scheme [] (if isSlash (isSpecial u.scheme) '/' then
    s.toList ++ segmentsText rest else '/' :: (s.toList ++ segmentsText rest))) = _
  rw [web.scheme.special, if_pos (by decide), extendPath, web.scheme.special,
    piecesBy_segmentsText (fun t there => whole t (List.mem_cons_of_mem s there)) (whole s List.mem_cons_self),
    pushSegments_of_plain web.scheme.not_file web.plain, List.nil_append]

/-- **Read again, the text of an address of the web is the same address,** up to its host. -/
theorem Web.parse?_href : parse? u.href none = (Host.parse? true host).map fun h => { u with host := some h } := by
  have no_opening : ∀ opening ∈ ['?', '#'], opening ∉ frontText u host segments := fun opening opens member =>
    (web.mem_frontText member).2 opens
  have no_fragment : '#' ∉ frontText u host segments ++ tailText '?' (u.query.map String.toList) := by
    intro member
    rcases List.mem_append.1 member with front | query
    · exact no_opening '#' (by decide) front
    · cases asked : u.query with
      | none =>
        rw [asked] at query
        cases query
      | some q =>
        rw [asked] at query
        rcases List.mem_cons.1 query with opening | inside
        · cases opening
        · exact absurd (web.query q asked '#' inside) (by decide)
  have cut := web.cleaned_href.trans (toList_href web)
  rw [parse?_of_parts cut no_fragment (no_opening '?' (by decide))]
  -- The authority ends where the path begins.
  have ends : ∀ c ∈ authority u host, (!isSlash true c) = true := by
    intro c member
    have inside := (web.mem_authority member).2
    simp only [List.mem_cons, List.not_mem_nil, or_false, not_or] at inside
    simp [isSlash, inside.1, inside.2.1]
  obtain ⟨s, rest, segments_eq⟩ := List.exists_cons_of_ne_nil web.rooted
  have path_text : segmentsText segments = '/' :: (s.toList ++ segmentsText rest) := by
    rw [segments_eq]
    rfl
  have before : (authority u host ++ segmentsText segments).takeWhile (fun c => !isSlash true c) =
      authority u host := by
    rw [List.takeWhile_append_of_pos ends, path_text, List.takeWhile_cons_of_neg (by decide), List.append_nil]
  have after : (authority u host ++ segmentsText segments).dropWhile (fun c => !isSlash true c) =
      segmentsText segments := by
    rw [List.dropWhile_append_of_pos ends, path_text, List.dropWhile_cons_of_neg (by decide)]
  have slashes : ('/' :: '/' :: (authority u host ++ segmentsText segments)).dropWhile (isSlash true) =
      authority u host ++ segmentsText segments := by
    have filled : authority u host ≠ [] := by
      rw [authority]
      intro empty
      exact web.hostText.filled (List.append_eq_nil_iff.1 (List.append_eq_nil_iff.1 empty).2).1
    obtain ⟨c, cs, start⟩ := List.exists_cons_of_ne_nil filled
    have first : isSlash true c = false := by
      have here := ends c (by rw [start]; exact List.mem_cons_self)
      rw [Bool.not_eq_true'] at here
      exact here
    rw [List.dropWhile_cons_of_pos rfl, List.dropWhile_cons_of_pos rfl, start, List.cons_append,
      List.dropWhile_cons_of_neg (by rw [first]; decide)]
  have core : ∀ hasQuery, absolute? none u.scheme ('/' :: '/' :: (authority u host ++ segmentsText segments)) hasQuery =
      (Host.parse? true host).map fun h => { u with host := some h, query := none, fragment := none } := by
    intro hasQuery
    unfold absolute?
    rw [if_neg web.scheme.not_file, if_pos web.scheme.special, slashes]
    unfold afterSlashes?
    dsimp only
    rw [web.scheme.special, before, after, web.withAuthority?_eq, web.rootedPath_eq]
    cases Host.parse? true host with
    | none => rfl
    | some h => rw [Option.map_some, Option.map_some, ← web.path]
  have queried : (u.query.map String.toList).map (fun q => String.ofList (encode inSpecialQuery q)) = u.query := by
    cases asked : u.query with
    | none => rfl
    | some q =>
      rw [Option.map_some, Option.map_some, encode_eq_self (web.query q asked), String.ofList_toList]
  have marked : (u.fragment.map String.toList).map (fun f => String.ofList (encode inFragment f)) = u.fragment := by
    cases asked : u.fragment with
    | none => rfl
    | some f =>
      rw [Option.map_some, Option.map_some, encode_eq_self (web.fragment f asked), String.ofList_toList]
  rw [ofParts?, frontText, takeScheme?_web web.scheme]
  dsimp only
  rw [core]
  cases Host.parse? true host with
  | none => rfl
  | some h =>
    rw [Option.map_some, Option.map_some]
    dsimp only
    rw [web.scheme.special, if_pos rfl, queried, marked, Option.or_none, Option.map_some]

end Reading

end BearerGate.Url
