import BearerGate.Proofs.Number.Decimal
import BearerGate.Url.Basic

/-!
# The text of a host

A host that has been read can stand in the text of an address (`hostText_of_parse?`): it is visible, it holds
nothing at which the address would be cut, and a colon only between brackets.
-/

namespace BearerGate.Host

/-- **A text that can stand where an address has its host.**  Cutting off a port finds none in it. -/
structure HostText (h : List Char) : Prop where
  filled : h ≠ []
  visible : ∀ c ∈ h, 0x20 < c.toNat
  inside : ∀ c ∈ h, c ∉ ['/', '\\', '?', '#', '@']
  whole : ∀ rest, Url.splitPort false (h ++ rest) = (h ++ (Url.splitPort false rest).1, (Url.splitPort false rest).2)

/-! ### Where a port is cut off -/

theorem splitPort_append {cs : List Char} (plain : ∀ c ∈ cs, c ∉ [':', '[', ']']) (rest : List Char) :
    Url.splitPort false (cs ++ rest) = (cs ++ (Url.splitPort false rest).1, (Url.splitPort false rest).2) := by
  induction cs with
  | nil => rfl
  | cons c cs ih =>
    have first := plain c List.mem_cons_self
    simp only [List.mem_cons, List.not_mem_nil, or_false, not_or] at first
    have later := ih fun d member => plain d (List.mem_cons_of_mem c member)
    rw [List.cons_append, Url.splitPort, if_neg fun colon => first.1 colon.1, if_neg first.2.1, if_neg first.2.2]
    dsimp only
    rw [later]
    rfl

/-- Between brackets a colon is passed over. -/
theorem splitPort_inner {cs : List Char} (plain : ∀ c ∈ cs, c ∉ ['[', ']']) (rest : List Char) :
    Url.splitPort true (cs ++ ']' :: rest) =
      (cs ++ ']' :: (Url.splitPort false rest).1, (Url.splitPort false rest).2) := by
  induction cs with
  | nil =>
    rw [List.nil_append, Url.splitPort, if_neg (by decide), if_neg (by decide), if_pos rfl]
    rfl
  | cons c cs ih =>
    have first := plain c List.mem_cons_self
    simp only [List.mem_cons, List.not_mem_nil, or_false, not_or] at first
    have later := ih fun d member => plain d (List.mem_cons_of_mem c member)
    rw [List.cons_append, Url.splitPort, if_neg (by simp), if_neg first.1, if_neg first.2]
    dsimp only
    rw [later]
    rfl

theorem splitPort_brackets {cs : List Char} (plain : ∀ c ∈ cs, c ∉ ['[', ']']) (rest : List Char) :
    Url.splitPort false (('[' :: cs ++ [']']) ++ rest) =
      (('[' :: cs ++ [']']) ++ (Url.splitPort false rest).1, (Url.splitPort false rest).2) := by
  have joined : ('[' :: cs ++ [']']) ++ rest = '[' :: (cs ++ ']' :: rest) := by simp
  rw [joined, Url.splitPort, if_neg (by decide), if_pos rfl]
  dsimp only
  rw [splitPort_inner plain]
  simp

/-! ### Names -/

/-- A character that a name may hold is visible and cuts nothing. -/
theorem plain_of_not_forbidden {c : Char} (fine : isForbiddenInName c = false) :
    0x20 < c.toNat ∧ c ∉ ['/', '\\', '?', '#', '@'] ∧ c ∉ [':', '[', ']'] := by
  have absent : ∀ d, isForbiddenInName d = true → c ≠ d := by
    rintro d forbidden rfl
    rw [fine] at forbidden
    cases forbidden
  have visible : 0x20 < c.toNat := by
    have control : decide (c.toNat < 0x20) = false := by
      simp only [isForbiddenInName, Bool.or_eq_false_iff] at fine
      exact fine.1.1.2
    have blank : c.toNat ≠ 0x20 := by
      intro same
      refine absent ' ' (by decide) ?_
      rw [← Char.ofNat_toNat c, same]
    have low := of_decide_eq_false control
    omega
  have cut : ∀ cuts : List Char, cuts.all isForbiddenInName = true → c ∉ cuts := fun cuts all member =>
    absent c (List.all_eq_true.1 all c member) rfl
  exact ⟨visible, cut _ (by decide), cut _ (by decide)⟩

theorem hostText_of_name {name : List Char} (filled : name ≠ []) (fine : ∀ c ∈ name, isForbiddenInName c = false) :
    HostText name where
  filled := filled
  visible := fun c member => (plain_of_not_forbidden (fine c member)).1
  inside := fun c member => (plain_of_not_forbidden (fine c member)).2.1
  whole := splitPort_append fun c member => (plain_of_not_forbidden (fine c member)).2.2

/-! ### Numbers -/

theorem not_forbidden_of_isDigit {c : Char} (digit : c.isDigit = true) : isForbiddenInName c = false := by
  simp only [Char.isDigit, Bool.and_eq_true, decide_eq_true_eq] at digit
  have bounds : 48 ≤ c.toNat ∧ c.toNat ≤ 57 := digit
  have all : ∀ n, 48 ≤ n → n ≤ 57 → isForbiddenInName (Char.ofNat n) = false := by decide
  rw [← Char.ofNat_toNat c]
  exact all c.toNat bounds.1 bounds.2

/-- The text of an IPv4 address. -/
theorem toList_renderIpv4 (n : Nat) :
    (renderIpv4 n).toList = Number.digitsOf (n / 16777216 % 256) ++ '.' :: (Number.digitsOf (n / 65536 % 256) ++
      '.' :: (Number.digitsOf (n / 256 % 256) ++ '.' :: Number.digitsOf (n % 256))) := by
  simp only [renderIpv4, String.toList_append, List.append_assoc]
  rfl

/-- It is written with dots and digits. -/
theorem mem_renderIpv4 {n : Nat} {c : Char} (member : c ∈ (renderIpv4 n).toList) : c = '.' ∨ c.isDigit = true := by
  have digit : ∀ {m}, c ∈ Number.digitsOf m → c = '.' ∨ c.isDigit = true := fun member =>
    .inr (Number.isDigit_of_mem_digitsOf member)
  rw [toList_renderIpv4] at member
  simp only [List.mem_append, List.mem_cons] at member
  rcases member with first | rfl | second | rfl | third | rfl | fourth
  · exact digit first
  · exact .inl rfl
  · exact digit second
  · exact .inl rfl
  · exact digit third
  · exact .inl rfl
  · exact digit fourth

/-- What an IPv6 address is written with. -/
def isIpv6Char (c : Char) : Bool := c = ':' || "0123456789abcdef".toList.contains c

theorem digitChar_mem {n : Nat} (small : n < 16) : isIpv6Char n.digitChar = true := by
  have all : ∀ n < 16, isIpv6Char n.digitChar = true := by decide
  exact all n small

theorem isIpv6Char_of_mem_toDigits {n : Nat} {c : Char} (member : c ∈ Nat.toDigits 16 n) : isIpv6Char c = true := by
  induction n using Nat.strongRecOn with
  | ind n ih =>
    rw [Nat.toDigits_eq_if (by decide)] at member
    split at member
    · rw [List.mem_singleton.1 member]
      exact digitChar_mem (by assumption)
    · rename_i large
      rcases List.mem_append.1 member with front | last
      · exact ih (n / 16) (by omega) front
      · rw [List.mem_singleton.1 last]
        exact digitChar_mem (Nat.mod_lt n (by decide))

/-- Every character of joined texts is one of a text or of what joins them. -/
theorem mem_intercalate {α : Type} {joint : List α} {texts : List (List α)} {x : α}
    (member : x ∈ joint.intercalate texts) : x ∈ joint ∨ ∃ t ∈ texts, x ∈ t := by
  induction texts with
  | nil => cases member
  | cons t texts ih =>
    by_cases last : texts = []
    · rw [last, List.intercalate_singleton] at member
      exact .inr ⟨t, List.mem_cons_self, member⟩
    · rw [List.intercalate_cons_of_ne_nil last] at member
      rcases List.mem_append.1 member with front | later
      · rcases List.mem_append.1 front with own | between
        · exact .inr ⟨t, List.mem_cons_self, own⟩
        · exact .inl between
      · rcases ih later with between | ⟨u, there, inside⟩
        · exact .inl between
        · exact .inr ⟨u, List.mem_cons_of_mem t there, inside⟩

theorem isIpv6Char_renderIpv6 (groups : List Nat) : ∀ c ∈ (renderIpv6 groups).toList, isIpv6Char c = true := by
  have joined : ∀ gs : List Nat, ∀ c ∈ (String.intercalate ":" (gs.map hexText)).toList, isIpv6Char c = true := by
    intro gs c member
    rw [String.toList_intercalate, List.map_map] at member
    rcases mem_intercalate member with colon | ⟨t, there, inside⟩
    · rw [List.mem_singleton.1 colon]
      decide
    · obtain ⟨g, -, rfl⟩ := List.mem_map.1 there
      have digits : (hexText g).toList = Nat.toDigits 16 g := String.toList_ofList
      change c ∈ (hexText g).toList at inside
      rw [digits] at inside
      exact isIpv6Char_of_mem_toDigits inside
  intro c member
  unfold renderIpv6 at member
  split at member
  · exact joined _ c member
  · rename_i i n _
    rw [String.toList_append, String.toList_append] at member
    rcases List.mem_append.1 member with front | last
    · rcases List.mem_append.1 front with first | double
      · exact joined _ c first
      · have colons : "::".toList.all isIpv6Char = true := by decide
        exact List.all_eq_true.1 colons c double
    · exact joined _ c last

theorem plain_of_isIpv6Char {c : Char} (fine : isIpv6Char c = true) :
    0x20 < c.toNat ∧ c ∉ ['/', '\\', '?', '#', '@'] ∧ c ∉ ['[', ']'] := by
  have digits : ("0123456789abcdef".toList.all fun d =>
      decide (0x20 < d.toNat ∧ d ∉ ['/', '\\', '?', '#', '@'] ∧ d ∉ ['[', ']'])) = true := by decide +kernel
  simp only [isIpv6Char, Bool.or_eq_true, decide_eq_true_eq, List.contains_iff_mem] at fine
  rcases fine with rfl | digit
  · decide
  · exact of_decide_eq_true (List.all_eq_true.1 digits c digit)

theorem hostText_renderIpv6 (groups : List Nat) : HostText ('[' :: (renderIpv6 groups).toList ++ [']']) := by
  have inner : ∀ c ∈ (renderIpv6 groups).toList, _ := fun c member =>
    plain_of_isIpv6Char (isIpv6Char_renderIpv6 groups c member)
  have each : ∀ c ∈ '[' :: (renderIpv6 groups).toList ++ [']'],
      0x20 < c.toNat ∧ c ∉ ['/', '\\', '?', '#', '@'] := by
    intro c member
    simp only [List.cons_append, List.mem_cons, List.mem_append, List.not_mem_nil, or_false] at member
    rcases member with rfl | inside | rfl
    · decide
    · exact ⟨(inner c inside).1, (inner c inside).2.1⟩
    · decide
  exact
    { filled := List.cons_ne_nil _ _
      visible := fun c member => (each c member).1
      inside := fun c member => (each c member).2
      whole := splitPort_brackets fun c member => (inner c member).2.2 }

/-! ### Hosts that have been read -/

/-- A host that a name stands for is a name itself. -/
theorem name_of_ofName? {text : List Char} {h : String} (read : ofName? text = some h) :
    h.toList ≠ [] ∧ ∀ c ∈ h.toList, isForbiddenInName c = false := by
  unfold ofName? at read
  split at read
  · cases read
  rename_i name _
  split at read
  · cases read
  rename_i fine
  simp only [not_or, Bool.not_eq_true, List.any_eq_false] at fine
  split at read
  · obtain ⟨n, -, rfl⟩ := Option.map_eq_some_iff.1 read
    refine ⟨by rw [toList_renderIpv4]; simp, fun c member => ?_⟩
    rcases mem_renderIpv4 member with rfl | digit
    · decide
    · exact not_forbidden_of_isDigit digit
  · cases read
    rw [String.toList_ofList]
    exact fine

/-- **A host that has been read can stand in the text of an address.** -/
theorem hostText_of_parse? {text : List Char} {h : String} (read : parse? true text = some h) :
    HostText h.toList := by
  unfold parse? at read
  split at read
  · split at read
    · obtain ⟨groups, -, rfl⟩ := Option.map_eq_some_iff.1 read
      have chars : ("[" ++ renderIpv6 groups ++ "]").toList = '[' :: (renderIpv6 groups).toList ++ [']'] := by
        rw [String.toList_append, String.toList_append]
        rfl
      rw [chars]
      exact hostText_renderIpv6 groups
    · cases read
  · have name := name_of_ofName? read
    exact hostText_of_name name.1 name.2

end BearerGate.Host
