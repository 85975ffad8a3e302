import BearerGate.Proofs.Url.Escape
import BearerGate.Proofs.Url.Label
import BearerGate.Proofs.Url.Numeric

/-!
# Hosts that are read again

A host that has been read stands for no other host when it is read again (`eq_of_parse?_parse?`), and it can be read
again as long as no label of it that is written behind `xn--` is too long (`parse?_parse?`, `Host.Bounded`).  A name is
mapped, brought into normal form and cut into labels, and each label is written in ASCII; the labels of the name in
normal form are the labels of the mapped name, each in normal form (`piecesBy_normalize`), so what holds of one label
holds of all.
-/

namespace BearerGate.Host

open HostMapping Label Unicode

/-! ### Labels of a name -/

theorem cut_normalize {name : List Char} {ps : List (List Char)} (cut : Text.Cut (· = '.') name ps) :
    Text.Cut (· = '.') (normalize name) (ps.map normalize) := by
  have dotless : ∀ {piece : List Char}, (∀ c ∈ piece, decide (c = '.') = false) →
      ∀ c ∈ normalize piece, decide (c = '.') = false := by
    intro piece whole c member
    have absent : '.' ∉ piece := fun dot => of_decide_eq_false (whole '.' dot) rfl
    exact decide_eq_false fun dot => dot_not_mem_normalize absent (dot ▸ member)
  induction cut with
  | last whole => exact .last (dotless whole)
  | next whole cut _ ih =>
    obtain rfl := of_decide_eq_true cut
    rw [normalize_dot]
    exact .next (dotless whole) cut ih

/-- **The labels of a name in normal form** are its labels in normal form. -/
theorem piecesBy_normalize (name : List Char) :
    Text.piecesBy (· = '.') (normalize name) = (Text.piecesBy (· = '.') name).map normalize :=
  Text.piecesBy_eq_iff_cut.2 (cut_normalize (Text.cut_piecesBy _ name))

/-- The labels of a name that has been mapped. -/
theorem settled_of_mapName? {cs name label : List Char} (read : mapName? cs = some name)
    (member : label ∈ Text.piecesBy (· = '.') name) : Settled label := by
  have parts := Text.not_sep_of_mem_piecesBy member
  have whole : '.' ∉ label := fun dot => of_decide_eq_false (parts '.' dot).2 rfl
  rw [mapName?] at read
  split at read
  · rename_i ascii
    obtain rfl := Option.some.inj read
    have plain : ∀ c ∈ label, Plain c := by
      intro c inside
      obtain ⟨d, there, rfl⟩ := List.mem_map.1 (parts c inside).1
      exact (toLower_ascii (isAscii_iff.1 ascii d there)).1
    refine ⟨fun c inside => fixed_of_plain (plain c inside), fun other => ?_, whole⟩
    rw [isAscii_of_plain plain] at other
    cases other
  · obtain ⟨mapped, mapping, rfl⟩ := Option.map_eq_some_iff.1 read
    refine ⟨fun c inside => forall_fixed_normalize mapping c (parts c inside).1, fun _ => ?_, whole⟩
    rw [piecesBy_normalize] at member
    obtain ⟨piece, -, rfl⟩ := List.mem_map.1 member
    exact normalize_normalize piece

/-! ### Names -/

/-- A name none of whose labels is too long. -/
def BoundedName (name : List Char) : Prop := ∀ label ∈ Text.piecesBy (· = '.') name, Label.Bounded label

theorem mapName?_of_plain {name : List Char} (plain : ∀ c ∈ name, Plain c) : mapName? name = some name := by
  rw [mapName?, if_pos (isAscii_of_plain plain), List.map_congr_left fun c member => toLower_of_plain (plain c member),
    List.map_id']

/-- A name of plain characters is its own ASCII form if its labels are. -/
theorem asciiName?_of_plain {name : List Char} (plain : ∀ c ∈ name, Plain c)
    (each : ∀ label ∈ Text.piecesBy (· = '.') name, toAscii? label = some label) : asciiName? name = some name := by
  have kept : (Text.piecesBy (· = '.') name).mapM toAscii? = some (Text.piecesBy (· = '.') name) := by
    have all := mapM_map (f := toAscii?) (g := id) each
    rwa [List.map_id] at all
  rw [asciiName?, mapName?_of_plain plain]
  dsimp only [Option.bind_eq_bind, Option.bind_some]
  rw [kept, Text.piecesBy_eq_splitOn]
  exact congrArg some (List.intercalate_splitOn '.')

/-- A name of plain characters has no other ASCII form than itself. -/
theorem eq_of_asciiName?_of_plain {name ascii : List Char} (plain : ∀ c ∈ name, Plain c)
    (read : asciiName? name = some ascii) : ascii = name := by
  rw [asciiName?, mapName?_of_plain plain] at read
  dsimp only [Option.bind_eq_bind, Option.bind_some] at read
  obtain ⟨parts, writing, same⟩ := Option.bind_eq_some_iff.1 read
  obtain rfl := Option.some.inj same
  have ascii : ∀ label ∈ Text.piecesBy (· = '.') name, isAscii label = true := fun label there =>
    isAscii_of_plain fun c inside => plain c (Text.not_sep_of_mem_piecesBy there c inside).1
  have kept : Text.piecesBy (· = '.') name = parts := by
    have each := (List.forall₂_and_left _ _).2 ⟨ascii, mapM_eq_some writing⟩
    exact List.forall₂_eq_eq_eq ▸ each.imp fun label part own => (eq_of_toAscii?_of_isAscii own.1 own.2).symm
  rw [← kept, Text.piecesBy_eq_splitOn]
  exact List.intercalate_splitOn '.'

/-- **An ASCII form of a name** is plain, and its labels are ASCII forms of labels. -/
theorem labels_of_asciiName? {cs name : List Char} (read : asciiName? cs = some name) :
    (∀ c ∈ name, Plain c) ∧
      ∀ part ∈ Text.piecesBy (· = '.') name, ∃ label, Settled label ∧ toAscii? label = some part := by
  obtain ⟨mapped, mapping, read⟩ := Option.bind_eq_some_iff.1 read
  obtain ⟨parts, writing, same⟩ := Option.bind_eq_some_iff.1 read
  obtain rfl := Option.some.inj same
  have origin : ∀ part ∈ parts, ∃ label, Settled label ∧ toAscii? label = some part := by
    intro part member
    obtain ⟨label, there, own⟩ := exists_of_forall₂ (mapM_eq_some writing) member
    exact ⟨label, settled_of_mapName? mapping there, own⟩
  have plain : ∀ part ∈ parts, ∀ c ∈ part, Plain c ∧ c ≠ '.' := by
    intro part member
    obtain ⟨label, settled, own⟩ := origin part member
    exact plain_of_toAscii? settled own
  have filled : parts ≠ [] := by
    rintro rfl
    have none_there := (mapM_eq_some writing).length_eq
    exact Text.piecesBy_ne_nil _ _ (List.length_eq_zero_iff.1 none_there)
  have labels : Text.piecesBy (· = '.') (['.'].intercalate parts) = parts := by
    rw [Text.piecesBy_eq_splitOn]
    exact List.splitOn_intercalate '.' (fun part member dot => (plain part member '.' dot).2 rfl) filled
  refine ⟨fun c member => ?_, by rwa [labels]⟩
  rcases mem_intercalate member with dot | ⟨part, there, inside⟩
  · rw [List.mem_singleton.1 dot]
    exact show asciiMask.testBit 0x2e = true by decide
  · exact (plain part there c inside).1

/-- **The ASCII form of a name** is its own ASCII form. -/
theorem asciiName?_asciiName? {cs name : List Char} (read : asciiName? cs = some name) (bounded : BoundedName name) :
    asciiName? name = some name := by
  obtain ⟨plain, origin⟩ := labels_of_asciiName? read
  refine asciiName?_of_plain plain fun part member => ?_
  obtain ⟨label, settled, own⟩ := origin part member
  exact toAscii?_toAscii? settled own (bounded part member)

/-! ### Hosts -/

/-- What is read of a text without escapes. -/
theorem ofName?_eq {text name : List Char} (bare : '%' ∉ text) (ascii : asciiName? text = some name) :
    ofName? text =
      if name = [] ∨ name.any isForbiddenInName then none
      else if endsInNumber name then (ipv4? name).map renderIpv4 else some (String.ofList name) := by
  rw [ofName?, Percent.decode_ofList bare, ascii]

/-- **A host none of whose labels is too long.** -/
def Bounded (h : String) : Prop := BoundedName h.toList

/-- An IPv4 address that has been written is read again, from a name of digits. -/
theorem ofName?_renderIpv4 (n : Nat) : ofName? (renderIpv4 n).toList = some (renderIpv4 n) := by
  have digit : ∀ {c : Char}, c.isDigit = true → Plain c ∧ c ≠ '%' ∧ c ≠ 'x' ∧ isForbiddenInName c = false := by
    intro c digit
    have value : (Punycode.digitValue? c).isSome = true := by
      rw [Punycode.digitValue?, if_pos digit]
      split <;> rfl
    refine ⟨(plain_of_digitValue? value).1, ?_, ?_, not_forbidden_of_isDigit digit⟩
    · rintro rfl
      cases digit
    · rintro rfl
      cases digit
  have chars : ∀ c ∈ (renderIpv4 n).toList, Plain c ∧ c ≠ '%' ∧ isForbiddenInName c = false := by
    intro c member
    rcases mem_renderIpv4 member with rfl | own
    · exact ⟨show asciiMask.testBit 0x2e = true by decide, by decide, by decide⟩
    · exact ⟨(digit own).1, (digit own).2.1, (digit own).2.2.2⟩
  have labels : ∀ label ∈ Text.piecesBy (· = '.') (renderIpv4 n).toList, toAscii? label = some label := by
    intro label member
    have digits : ∀ c ∈ label, c.isDigit = true := by
      intro c inside
      rw [piecesBy_renderIpv4] at member
      simp only [List.mem_cons, List.not_mem_nil, or_false] at member
      rcases member with rfl | rfl | rfl | rfl <;> exact Number.isDigit_of_mem_digitsOf inside
    exact toAscii?_of_isAscii (isAscii_of_plain fun c inside => (digit (digits c inside)).1) fun inside =>
      (digit (digits 'x' inside)).2.2.1 rfl
  have fine : ¬((renderIpv4 n).toList = [] ∨ (renderIpv4 n).toList.any isForbiddenInName = true) := by
    rintro (empty | forbidden)
    · rw [toList_renderIpv4] at empty
      simp at empty
    · obtain ⟨c, member, forbidden⟩ := List.any_eq_true.1 forbidden
      rw [(chars c member).2.2] at forbidden
      cases forbidden
  rw [ofName?_eq (fun percent => (chars '%' percent).2.1 rfl)
    (asciiName?_of_plain (fun c member => (chars c member).1) labels), if_neg fine,
    if_pos (endsInNumber_renderIpv4 n), ipv4?_renderIpv4, Option.map_some, renderIpv4_mod]

/-- **A name that has been read** is an IPv4 address, or an ASCII form that is read again if it has one itself. -/
theorem ofName?_cases {text : List Char} {h : String} (read : ofName? text = some h) :
    (∃ n, h = renderIpv4 n) ∨
      (∃ cs, asciiName? cs = some h.toList) ∧ ofName? h.toList = (asciiName? h.toList).map fun _ => h := by
  rw [ofName?] at read
  split at read
  · cases read
  rename_i name ascii
  split at read
  · cases read
  rename_i fine
  split at read
  · obtain ⟨n, -, rfl⟩ := Option.map_eq_some_iff.1 read
    exact .inl ⟨n, rfl⟩
  rename_i named
  obtain rfl := Option.some.inj read
  have bare : '%' ∉ name := by
    intro percent
    exact fine (.inr (List.any_eq_true.2 ⟨'%', percent, by decide⟩))
  rw [String.toList_ofList]
  refine .inr ⟨⟨_, ascii⟩, ?_⟩
  cases again : asciiName? name with
  | none =>
    rw [ofName?, Percent.decode_ofList bare, again]
    rfl
  | some ascii' =>
    obtain rfl := eq_of_asciiName?_of_plain (labels_of_asciiName? ascii).1 again
    rw [ofName?_eq bare again, if_neg fine, if_neg named, Option.map_some]

/-- **A name that has been read is read again.** -/
theorem ofName?_ofName? {text : List Char} {h : String} (read : ofName? text = some h) (bounded : Bounded h) :
    ofName? h.toList = some h := by
  rcases ofName?_cases read with ⟨n, rfl⟩ | ⟨⟨cs, ascii⟩, again⟩
  · exact ofName?_renderIpv4 n
  · rw [again, asciiName?_asciiName? ascii bounded, Option.map_some]

/-- **A name that has been read stands for no other name.** -/
theorem eq_of_ofName?_ofName? {text : List Char} {h h' : String} (read : ofName? text = some h)
    (again : ofName? h.toList = some h') : h' = h := by
  rcases ofName?_cases read with ⟨n, rfl⟩ | ⟨-, same⟩
  · rw [ofName?_renderIpv4] at again
    exact (Option.some.inj again).symm
  · rw [same] at again
    obtain ⟨-, -, rfl⟩ := Option.map_eq_some_iff.1 again
    rfl

/-- **A host that has been read** is an IPv6 address, which is read again, or a name, which is read again as a name. -/
theorem parse?_cases {text : List Char} {h : String} (read : parse? true text = some h) :
    parse? true h.toList = some h ∨ ofName? text = some h ∧ parse? true h.toList = ofName? h.toList := by
  unfold parse? at read
  split at read
  · split at read
    · obtain ⟨groups, own, rfl⟩ := Option.map_eq_some_iff.1 read
      have chars : ("[" ++ renderIpv6 groups ++ "]").toList = '[' :: ((renderIpv6 groups).toList ++ [']']) := by
        rw [String.toList_append, String.toList_append]
        rfl
      have known := groups_of_ipv6? own
      left
      rw [chars, parse?, List.reverse_append, List.reverse_singleton, List.singleton_append]
      change (ipv6? (renderIpv6 groups).toList.reverse.reverse).map _ = _
      rw [List.reverse_reverse, ipv6?_renderIpv6 known.1 known.2]
      rfl
    · cases read
  · rw [if_pos rfl] at read
    refine .inr ⟨read, ?_⟩
    have name := name_of_ofName? read
    generalize h.toList = cs at name
    rw [parse?, if_pos rfl]
    rintro rest rfl
    exact absurd (name.2 '[' List.mem_cons_self) (by decide)

/-- **A host that has been read is read again,** and is the same one. -/
theorem parse?_parse? {text : List Char} {h : String} (read : parse? true text = some h) (bounded : Bounded h) :
    parse? true h.toList = some h := by
  rcases parse?_cases read with again | ⟨name, again⟩
  · exact again
  · rw [again, ofName?_ofName? name bounded]

/-- **A host that has been read stands for no other host.** -/
theorem eq_of_parse?_parse? {text : List Char} {h h' : String} (read : parse? true text = some h)
    (again : parse? true h.toList = some h') : h' = h := by
  rcases parse?_cases read with same | ⟨name, same⟩
  · rw [same] at again
    exact (Option.some.inj again).symm
  · rw [same] at again
    exact eq_of_ofName?_ofName? name again

/-! ### A host that is not read again -/

section Far

open Punycode

variable {n : Nat} (filled : 0 < n) (fits : farDelta n ≤ limit)
include filled fits

theorem piecesBy_farForm : Text.piecesBy (· = '.') (farForm n) = [farForm n] :=
  Text.piecesBy_eq_singleton fun c member =>
    decide_eq_false (plain_of_toAscii? (settled_farText n) (toAscii?_farText filled fits) c member).2

theorem asciiName?_farText : asciiName? (farText n) = some (farForm n) := by
  have settled := settled_farText n
  have other : isAscii (farText n) = false := by
    rw [farText, isAscii, List.all_cons]
    rfl
  have whole : Text.piecesBy (· = '.') (farText n) = [farText n] :=
    Text.piecesBy_eq_singleton fun c member => decide_eq_false fun dot => settled.whole (dot ▸ member)
  have mapped : mapName? (farText n) = some (farText n) := by
    rw [mapName?, other, mapName?_of_fixed settled.fixed, Option.map_some, settled.normal other]
    rfl
  have written : [farText n].mapM toAscii? = some [farForm n] := by
    rw [List.mapM_cons, List.mapM_nil, toAscii?_farText filled fits]
    rfl
  rw [asciiName?, mapped]
  dsimp only [Option.bind_eq_bind, Option.bind_some]
  rw [whole, written]
  exact congrArg some List.intercalate_singleton

theorem not_forbidden_of_mem_farForm : ∀ c ∈ farForm n, isForbiddenInName c = false := by
  have digit : ∀ {c : Char}, (digitValue? c).isSome = true → isForbiddenInName c = false := by
    intro c digit
    have all : ∀ n < 0x80, (digitValue? (Char.ofNat n)).isSome = true → isForbiddenInName (Char.ofNat n) = false := by
      decide +kernel
    have own := all c.toNat (ascii_of_plain (plain_of_digitValue? digit).1)
    rw [Char.ofNat_toNat] at own
    exact own digit
  have start : asciiStart.all (fun c => !isForbiddenInName c) = true := by decide
  intro c member
  rcases List.mem_append.1 member with front | rest
  · exact (Bool.not_eq_true' _).mp (List.all_eq_true.1 start c front)
  · rcases (plain_of_encode? (encode?_farText filled fits)).1 c rest with ⟨own, ascii⟩ | rfl | own
    · exact of_mem_farText (P := fun c => c.toNat < 128 → isForbiddenInName c = false) (by decide) (by decide)
        (by decide) c own ascii
    · decide
    · exact digit own

/-- **A host can be read** -/
theorem parse?_farText : parse? true (farText n) = some (String.ofList (farForm n)) := by
  have bare : '%' ∉ farText n := fun percent =>
    of_mem_farText (P := (· ≠ '%')) (by decide) (by decide) (by decide) '%' percent rfl
  have fine : ¬(farForm n = [] ∨ (farForm n).any isForbiddenInName = true) := by
    rintro (empty | forbidden)
    · cases empty
    · obtain ⟨c, member, own⟩ := List.any_eq_true.1 forbidden
      rw [not_forbidden_of_mem_farForm filled fits c member] at own
      cases own
  have named : endsInNumber (farForm n) = false := by
    have whole : labels (farForm n) = [farForm n] := by
      rw [labels, piecesBy_farForm filled fits]
      rfl
    have nonzero : 'x' ≠ '0' := by decide
    rw [endsInNumber, whole, List.getLast?_singleton]
    dsimp only
    rw [farForm, show asciiStart = 'x' :: "n--".toList from rfl, List.cons_append, ipv4Part?_cons nonzero,
      ipv4Part?.digitsIn, List.all_cons, List.all_cons]
    rfl
  have read := ofName?_eq bare (asciiName?_farText filled fits)
  rw [if_neg fine, named, if_neg Bool.false_ne_true] at read
  rw [parse?, if_pos rfl, read]
  rintro rest same
  exact absurd (List.cons.inj same).1 (by decide)

/-- **that cannot be read again.** -/
theorem parse?_farForm (beyond : limit < n + 1 + farDelta n) : parse? true (farForm n) = none := by
  have plain := plain_of_toAscii? (settled_farText n) (toAscii?_farText filled fits)
  have small : (farForm n).map Char.toLower = farForm n := by
    rw [List.map_congr_left fun c member => toLower_of_plain (plain c member).1, List.map_id']
  have unwritten : [farForm n].mapM toAscii? = none := by
    rw [List.mapM_cons, toAscii?_farForm filled fits beyond]
    rfl
  have none_there : asciiName? (farForm n) = none := by
    rw [asciiName?, mapName?, if_pos (isAscii_of_plain fun c member => (plain c member).1), small]
    dsimp only [Option.bind_eq_bind, Option.bind_some]
    rw [piecesBy_farForm filled fits, unwritten]
    rfl
  have bare : '%' ∉ farForm n := fun percent => by
    have forbidden := not_forbidden_of_mem_farForm filled fits '%' percent
    exact absurd forbidden (by decide)
  rw [parse?, if_pos rfl, ofName?, Percent.decode_ofList bare, none_there]
  rintro rest same
  exact absurd (List.cons.inj same).1 (by decide)

end Far

end BearerGate.Host
