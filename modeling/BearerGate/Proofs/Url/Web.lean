import BearerGate.Proofs.Url.Host
import BearerGate.Proofs.Url.Path

/-!
# Addresses of the web

What is known of an address of the web that has been read on its own (`Web`, `web_of_parse?`): its parts hold only
characters that need not be escaped where they stand, its host can stand in a text, its port is none that the scheme
has by itself, and its path consists of plain segments.

So the text of such an address is cut again where it was put together, and read again it is the same address, as far
as its host is (`parse?_href`).
-/

namespace BearerGate.Url

open Percent

/-- The schemes of the web. -/
def IsWeb (scheme : String) : Prop := scheme = "http" ∨ scheme = "https"

theorem IsWeb.special {scheme : String} (web : IsWeb scheme) : isSpecial scheme = true := by
  rcases web with rfl | rfl
  · decide
  · decide

theorem IsWeb.not_file {scheme : String} (web : IsWeb scheme) : scheme ≠ "file" := by
  rcases web with rfl | rfl
  · decide
  · decide

/-- **What is known of an address of the web** that has been read. -/
structure Web (u : Url) (host : List Char) (segments : List String) : Prop where
  scheme : IsWeb u.scheme
  username : ∀ c ∈ u.username.toList, inUserInfo c = false
  password : ∀ c ∈ u.password.toList, inUserInfo c = false
  named : u.host = some (String.ofList host)
  hostText : Host.HostText host
  port : ∀ p, u.port = some p → p ≤ 65535 ∧ defaultPort? u.scheme ≠ some p
  path : u.path = .segments segments
  rooted : segments ≠ []
  plain : ∀ s ∈ segments, PlainSegment s
  query : ∀ q, u.query = some q → ∀ c ∈ q.toList, inSpecialQuery c = false
  fragment : ∀ f, u.fragment = some f → ∀ c ∈ f.toList, inFragment c = false

/-! ### Texts and their tails -/

/-- A part of an address that may be missing, after the character that opens it. -/
def tailText (opening : Char) : Option (List Char) → List Char
  | none => []
  | some cs => opening :: cs

section Tail

variable {opening : Char} {front : List Char} (absent : opening ∉ front) (tail : Option (List Char))
include absent

theorem takeWhile_tail : (front ++ tailText opening tail).takeWhile (· ≠ opening) = front := by
  have all : ∀ c ∈ front, decide (c ≠ opening) = true := by
    intro c member
    refine decide_eq_true fun same => absent ?_
    rw [← same]
    exact member
  rw [List.takeWhile_append_of_pos all]
  cases tail with
  | none => exact List.append_nil front
  | some cs => simp [tailText]

theorem dropWhile_tail : (front ++ tailText opening tail).dropWhile (· ≠ opening) = tailText opening tail := by
  have all : ∀ c ∈ front, decide (c ≠ opening) = true := by
    intro c member
    refine decide_eq_true fun same => absent ?_
    rw [← same]
    exact member
  rw [List.dropWhile_append_of_pos all]
  cases tail with
  | none => rfl
  | some cs => simp [tailText]

end Tail

/-- Every text is a front and a tail. -/
theorem exists_tail (opening : Char) (cs : List Char) :
    ∃ front tail, cs = front ++ tailText opening tail ∧ opening ∉ front := by
  induction cs with
  | nil => exact ⟨[], none, rfl, List.not_mem_nil⟩
  | cons c cs ih =>
    by_cases opens : c = opening
    · exact ⟨[], some cs, by rw [opens]; rfl, List.not_mem_nil⟩
    · obtain ⟨front, tail, rfl, absent⟩ := ih
      refine ⟨c :: front, tail, rfl, ?_⟩
      rintro (_ | ⟨_, later⟩)
      · exact opens rfl
      · exact absent later

/-- **Reading cuts a text at its first question mark and its first number sign.** -/
theorem parse?_of_parts {s : String} {base : Option Url} {front : List Char} {query fragment : Option (List Char)}
    (cut : cleaned s = (front ++ tailText '?' query) ++ tailText '#' fragment)
    (no_fragment : '#' ∉ front ++ tailText '?' query) (no_query : '?' ∉ front) :
    parse? s base = ofParts? base front query fragment := by
  rw [parse?, cut, takeWhile_tail no_fragment, dropWhile_tail no_fragment, takeWhile_tail no_query, dropWhile_tail no_query]
  cases query <;> cases fragment <;> rfl

/-! ### What reading leaves -/

/-- What is known of an authority that has been read. -/
theorem withAuthority?_eq_some {scheme : String} {authority : List Char} {path : UrlPath} {u : Url}
    (read : withAuthority? scheme authority path = some u) :
    ∃ user password host port digits, u = (
        { scheme, username := String.ofList (encode inUserInfo user),
          password := String.ofList (encode inUserInfo password), host := some host, port, path } : Url) ∧
      (isSpecial scheme = true → ∃ text, Host.parse? true text = some host) ∧ port? scheme digits = some port := by
  unfold withAuthority? at read
  rcases cut : splitLast? '@' authority with _ | ⟨user, rest⟩
  all_goals
    rw [cut] at read
    dsimp only at read
    split at read
    · cases read
    rename_i filled
    split at read
    · rename_i host port hosted ported
      cases read
      refine ⟨_, _, host, port, _, rfl, fun special => ?_, ported⟩
      rw [if_neg fun empty => filled ⟨empty, .inl special⟩, special] at hosted
      exact ⟨_, hosted⟩
    · cases read

/-- Reading does not change the scheme. -/
theorem scheme_of_absolute? {scheme : String} {cs : List Char} {hasQuery : Bool} {u : Url}
    (read : absolute? none scheme cs hasQuery = some u) : u.scheme = scheme := by
  have file_scheme : ∀ {cs : List Char} {v : Url}, fileHost? cs = some v → v.scheme = "file" := by
    intro cs v read
    unfold fileHost? at read
    dsimp only at read
    split at read
    · cases read
      rfl
    · split at read
      · cases read
        rfl
      · obtain ⟨h, -, rfl⟩ := Option.map_eq_some_iff.1 read
        rfl
  have authority_scheme : ∀ {cs : List Char} {v : Url}, afterSlashes? scheme cs = some v → v.scheme = scheme := by
    intro cs v read
    obtain ⟨user, password, host, port, digits, rfl, -⟩ := withAuthority?_eq_some read
    rfl
  unfold absolute? at read
  split at read
  · rename_i file
    rw [file]
    unfold file? at read
    dsimp only [Option.bind_none] at read
    split at read
    · split at read
      · split at read
        · split at read
          · exact file_scheme read
          · cases read
            rfl
        · cases read
          rfl
      · cases read
        rfl
    · cases read
      rfl
  · split at read
    · exact authority_scheme read
    · split at read
      · exact authority_scheme read
      · cases read
        rfl
      · cases read
        rfl

theorem port_of_port? {scheme : String} {digits : List Char} {port : Option Nat}
    (read : port? scheme digits = some port) : ∀ p, port = some p → p ≤ 65535 ∧ defaultPort? scheme ≠ some p := by
  rintro p rfl
  unfold port? at read
  split at read
  · cases read
  · split at read
    · dsimp only at read
      split at read
      · cases read
      · rename_i small
        split at read
        · cases read
        · rename_i own
          cases read
          exact ⟨Nat.not_lt.1 small, own⟩
    · cases read

/-- The path after an authority consists of plain segments. -/
theorem rootedPath_eq {scheme : String} (web : IsWeb scheme) (cs : List Char) :
    ∃ segments, rootedPath scheme cs = .segments segments ∧ segments ≠ [] ∧ ∀ s ∈ segments, PlainSegment s := by
  have read : ∀ text : List Char, extendPath scheme [] text ≠ [] ∧ ∀ s ∈ extendPath scheme [] text, PlainSegment s := by
    intro text
    refine ⟨pushSegments_ne_nil web.special (Text.piecesBy_ne_nil _ _) [], ?_⟩
    refine plain_pushSegments web.not_file (fun s member => by cases member) fun piece there c member => ?_
    rw [web.special] at there
    exact (Text.not_sep_of_mem_piecesBy there c member).2
  unfold rootedPath
  cases cs with
  | nil =>
    refine ⟨[""], ?_, List.cons_ne_nil _ _, fun s member => ?_⟩
    · dsimp only
      rw [if_pos web.special]
    · rw [List.mem_singleton.1 member]
      exact plain_empty
  | cons c rest => exact ⟨_, rfl, read _⟩

/-- **An address of the web that has been read on its own** is in order, and its host has been read. -/
theorem web_of_parse? {text : String} {u : Url} (read : parse? text none = some u) (web : IsWeb u.scheme) :
    ∃ host segments, Web u host segments ∧ ∃ cs, Host.parse? true cs = some (String.ofList host) := by
  unfold parse? ofParts? at read
  dsimp only at read
  obtain ⟨core, core_read, rfl⟩ := Option.map_eq_some_iff.1 read
  split at core_read
  · rename_i scheme rest _
    change IsWeb core.scheme at web
    obtain rfl := scheme_of_absolute? core_read
    unfold absolute? at core_read
    rw [if_neg web.not_file, if_pos web.special] at core_read
    unfold afterSlashes? at core_read
    dsimp only at core_read
    obtain ⟨segments, path, rooted, plain⟩ := rootedPath_eq web
      (List.dropWhile (fun c => !isSlash (isSpecial core.scheme) c) (rest.dropWhile (isSlash true)))
    rw [path] at core_read
    obtain ⟨user, password, host, port, digits, core_eq, named, port_read⟩ := withAuthority?_eq_some core_read
    obtain ⟨cs, host_read⟩ := named web.special
    refine ⟨host.toList, segments, ?_, cs, by rw [String.ofList_toList, host_read]⟩
    have no_query : core.query = none := by rw [core_eq]
    have fine : ∀ (escaped : Char → Bool), Escapable escaped → ∀ cs : List Char,
        ∀ c ∈ (String.ofList (encode escaped cs)).toList, escaped c = false := by
      intro escaped escapable cs c member
      rw [String.toList_ofList] at member
      exact not_escaped_of_mem_encode escapable member
    exact
      { scheme := web
        username := by
          rw [core_eq]
          exact fine inUserInfo escapable_inUserInfo user
        password := by
          rw [core_eq]
          exact fine inUserInfo escapable_inUserInfo password
        named := by rw [core_eq, String.ofList_toList]
        hostText := Host.hostText_of_parse? host_read
        port := by
          rw [show core.port = port by rw [core_eq]]
          exact port_of_port? port_read
        path := by rw [core_eq]
        rooted
        plain
        query := by
          intro q asked
          dsimp only at asked
          rw [no_query, Option.or_none, web.special] at asked
          obtain ⟨cs, -, rfl⟩ := Option.map_eq_some_iff.1 asked
          exact fine inSpecialQuery escapable_inSpecialQuery cs
        fragment := by
          intro f asked
          obtain ⟨cs, -, rfl⟩ := Option.map_eq_some_iff.1 asked
          exact fine inFragment escapable_inFragment cs }
  · cases core_read

end BearerGate.Url
