import BearerGate.Proofs.Text.Pieces
import BearerGate.Proofs.Url.Host
import BearerGate.Proofs.Url.HostMapping

/-!
# Numeric hosts that have been written

An IPv4 address is written as four decimal bytes and read again as the number it is (`ipv4?_renderIpv4`).  An IPv6
address is written as groups of hexadecimal digits, with its longest row of zeros left out, and read again as those
groups (`ipv6?_renderIpv6`): the text is cut at its only double colon, and the zeros are put back to make eight groups.
-/

namespace BearerGate.Host

open HostMapping (mapM_eq_some exists_of_forall₂)

/-! ### Decimal parts -/

theorem ipv4Part?_cons {c : Char} (nonzero : c ≠ '0') (cs : List Char) :
    ipv4Part? (c :: cs) = ipv4Part?.digitsIn 10 (c :: cs) := by
  unfold ipv4Part?
  split <;> simp_all

/-- Digits without a zero in front are read in base 10. -/
theorem ipv4Part?_digitsOf (n : Nat) : ipv4Part? (Number.digitsOf n) = some n := by
  by_cases zero : n = 0
  · rw [zero]
    decide
  have leading := Number.head?_digitsOf_ne_zero zero
  have value := Number.digitsValue_digitsOf n
  have digits : (Number.digitsOf n).all (fun c => (Number.digit? 10 c).isSome) = true :=
    List.all_eq_true.2 fun c member => by rw [Number.digit?_of_isDigit (Number.isDigit_of_mem_digitsOf member)]; rfl
  generalize Number.digitsOf n = ds at leading value digits
  cases ds with
  | nil => exact absurd value.symm zero
  | cons c cs => rw [ipv4Part?_cons fun same => leading (congrArg some same), ipv4Part?.digitsIn, if_pos digits, value]

theorem digitsOf_ne_nil (n : Nat) : Number.digitsOf n ≠ [] := by
  intro nothing
  have read := ipv4Part?_digitsOf n
  rw [nothing] at read
  cases read

/-- The labels of an IPv4 address are its four numbers. -/
theorem piecesBy_renderIpv4 (n : Nat) : Text.piecesBy (· = '.') (renderIpv4 n).toList =
    [Number.digitsOf (n / 16777216 % 256), Number.digitsOf (n / 65536 % 256), Number.digitsOf (n / 256 % 256),
      Number.digitsOf (n % 256)] := by
  have whole : ∀ m, ∀ c ∈ Number.digitsOf m, decide (c = '.') = false := fun m c member =>
    decide_eq_false fun dot => absurd (dot ▸ Number.isDigit_of_mem_digitsOf member) (by decide)
  have cut : decide ('.' = '.') = true := rfl
  rw [toList_renderIpv4, Text.piecesBy_append_cons (whole _) cut, Text.piecesBy_append_cons (whole _) cut,
    Text.piecesBy_append_cons (whole _) cut, Text.piecesBy_eq_singleton (whole _)]

theorem labels_renderIpv4 (n : Nat) :
    labels (renderIpv4 n).toList = Text.piecesBy (· = '.') (renderIpv4 n).toList := by
  rw [labels, piecesBy_renderIpv4]
  split
  · rename_i reversed
    exact absurd (List.cons.inj reversed).1 (digitsOf_ne_nil _)
  · rfl

theorem endsInNumber_renderIpv4 (n : Nat) : endsInNumber (renderIpv4 n).toList = true := by
  rw [endsInNumber, labels_renderIpv4, piecesBy_renderIpv4]
  simp [ipv4Part?_digitsOf]

/-- **An IPv4 address that has been written** is read again, up to the 32 bits that are written. -/
theorem ipv4?_renderIpv4 (n : Nat) : ipv4? (renderIpv4 n).toList = some (n % 4294967296) := by
  have byte : ∀ m, m % 256 ≤ 255 := fun m => Nat.le_of_lt_succ (Nat.mod_lt m (by decide))
  have last : n % 256 < Nat.pow 256 1 := Nat.mod_lt n (by decide)
  have parts : ([Number.digitsOf (n / 16777216 % 256), Number.digitsOf (n / 65536 % 256),
      Number.digitsOf (n / 256 % 256), Number.digitsOf (n % 256)].mapM ipv4Part?).map List.reverse =
      some [n % 256, n / 256 % 256, n / 65536 % 256, n / 16777216 % 256] := by
    simp [ipv4Part?_digitsOf]
  rw [ipv4?, labels_renderIpv4, piecesBy_renderIpv4]
  simp only [parts, List.length_cons, List.length_nil, Nat.reduceAdd, Nat.lt_irrefl, if_false]
  rw [if_pos ⟨by simp [byte], last⟩]
  refine congrArg some ?_
  change n % 256 + n / 16777216 % 256 * 16777216 + n / 65536 % 256 * 65536 + n / 256 % 256 * 256 = n % 4294967296
  omega

theorem renderIpv4_mod (n : Nat) : renderIpv4 (n % 4294967296) = renderIpv4 n := by
  have first : n % 4294967296 / 16777216 % 256 = n / 16777216 % 256 := by omega
  have second : n % 4294967296 / 65536 % 256 = n / 65536 % 256 := by omega
  have third : n % 4294967296 / 256 % 256 = n / 256 % 256 := by omega
  have fourth : n % 4294967296 % 256 = n % 256 := by omega
  rw [renderIpv4, renderIpv4, first, second, third, fourth]

/-! ### Hexadecimal groups -/

/-- A group of an IPv6 address has 16 bits. -/
def AreGroups (groups : List Nat) : Prop := ∀ g ∈ groups, g < 65536

theorem digit?_digitChar {n : Nat} (small : n < 16) : Number.digit? 16 n.digitChar = some n := by
  have all : ∀ n < 16, Number.digit? 16 n.digitChar = some n := by decide
  exact all n small

theorem digitsValue_concat (cs : List Char) (c : Char) : Number.digitsValue 16 (cs ++ [c]) =
    Number.digitsValue 16 cs * 16 + (Number.digit? 16 c).getD 0 := List.foldl_append

/-- The digits of a number are digits of that number. -/
theorem toDigits_reads (n : Nat) : (∀ c ∈ Nat.toDigits 16 n, (Number.digit? 16 c).isSome = true) ∧
    Number.digitsValue 16 (Nat.toDigits 16 n) = n := by
  induction n using Nat.strongRecOn with
  | ind n ih =>
    rw [Nat.toDigits_eq_if (by decide)]
    split
    · rename_i small
      refine ⟨List.forall_mem_singleton.2 (by rw [digit?_digitChar small]; rfl), ?_⟩
      rw [← List.nil_append [_], digitsValue_concat, digit?_digitChar small]
      exact Nat.zero_add n
    · have front := ih (n / 16) (by omega)
      have last := digit?_digitChar (Nat.mod_lt n (show 0 < 16 by decide))
      refine ⟨fun c member => ?_, ?_⟩
      · rcases List.mem_append.1 member with before | own
        · exact front.1 c before
        · rw [List.mem_singleton.1 own, last]
          rfl
      · rw [digitsValue_concat, front.2, last]
        exact Nat.div_add_mod' n 16

theorem toDigits_ne_nil (n : Nat) : Nat.toDigits 16 n ≠ [] := by
  rw [Nat.toDigits_eq_if (by decide)]
  split <;> simp

theorem ipv6Group?_toDigits {g : Nat} (small : g < 65536) : ipv6Group? (Nat.toDigits 16 g) = some g := by
  have size : (Nat.toDigits 16 g).length ≤ 4 := (Nat.length_toDigits_le_iff (by decide) (by decide)).2 small
  have reads := toDigits_reads g
  rw [ipv6Group?, if_pos ⟨toDigits_ne_nil g, size, List.all_eq_true.2 reads.1⟩, reads.2]

/-- What digits can say is bounded by how many they are. -/
theorem digitsValue_lt (cs : List Char) : Number.digitsValue 16 cs < 16 ^ cs.length := by
  induction cs using List.reverseRecOn with
  | nil => decide
  | append_singleton cs c ih =>
    have digit : (Number.digit? 16 c).getD 0 < 16 := by
      cases read : Number.digit? 16 c with
      | none => decide
      | some v =>
        obtain ⟨small, same⟩ := Option.ite_none_right_eq_some.1 read
        exact Option.some.inj same ▸ small
    rw [digitsValue_concat, List.length_append, List.length_singleton, Nat.pow_succ]
    omega

theorem ipv6Group?_lt {cs : List Char} {g : Nat} (read : ipv6Group? cs = some g) : g < 65536 := by
  obtain ⟨given, value⟩ := Option.ite_none_right_eq_some.1 read
  calc g
    _ = Number.digitsValue 16 cs := (Option.some.inj value).symm
    _ < 16 ^ cs.length := digitsValue_lt cs
    _ ≤ 16 ^ 4 := Nat.pow_le_pow_right (by decide) given.2.1

/-! ### Groups that are joined -/

/-- Groups in hexadecimal, joined by colons. -/
def joined (groups : List Nat) : List Char := [':'].intercalate (groups.map (Nat.toDigits 16))

theorem toList_hexText (groups : List Nat) : (String.intercalate ":" (groups.map hexText)).toList = joined groups := by
  rw [String.toList_intercalate, List.map_map, joined]
  congr 1
  exact List.map_congr_left fun g _ => String.toList_ofList

theorem joined_cons_cons (g g' : Nat) (groups : List Nat) :
    joined (g :: g' :: groups) = Nat.toDigits 16 g ++ ':' :: joined (g' :: groups) := by
  rw [joined, List.map_cons, List.intercalate_cons_of_ne_nil (by simp)]
  simp [joined]

/-- No colon and no dot is among the digits. -/
theorem ne_colon_of_mem {g : Nat} {c : Char} (member : c ∈ Nat.toDigits 16 g) : c ≠ ':' ∧ c ≠ '.' := by
  have digit := (toDigits_reads g).1 c member
  constructor
  · rintro rfl
    cases digit
  · rintro rfl
    cases digit

theorem mapM_map {α β : Type} {f : α → Option β} {g : β → α} {xs : List β} (each : ∀ x ∈ xs, f (g x) = some x) :
    (xs.map g).mapM f = some xs := by
  induction xs with
  | nil => rfl
  | cons x xs ih =>
    rw [List.map_cons, List.mapM_cons, each x List.mem_cons_self, ih fun y member => each y (List.mem_cons_of_mem x member)]
    rfl

/-- **Joined groups are read as those groups.** -/
theorem ipv6Groups?_joined {groups : List Nat} (fine : AreGroups groups) : ipv6Groups? (joined groups) = some groups := by
  cases groups using List.reverseRecOn with
  | nil => rfl
  | append_singleton front g =>
    have parts : Text.piecesBy (· = ':') (joined (front ++ [g])) = (front ++ [g]).map (Nat.toDigits 16) := by
      rw [Text.piecesBy_eq_splitOn]
      refine List.splitOn_intercalate ':' (fun piece member colon => ?_) (by simp)
      obtain ⟨g, -, rfl⟩ := List.mem_map.1 member
      exact (ne_colon_of_mem colon).1 rfl
    have filled : joined (front ++ [g]) ≠ [] := by
      intro nothing
      rw [nothing] at parts
      have empty : [] ∈ (front ++ [g]).map (Nat.toDigits 16) := parts ▸ List.mem_singleton.2 rfl
      obtain ⟨h, -, same⟩ := List.mem_map.1 empty
      exact toDigits_ne_nil h same
    have reversed : ((front ++ [g]).map (Nat.toDigits 16)).reverse =
        Nat.toDigits 16 g :: (front.map (Nat.toDigits 16)).reverse := by simp
    have pointless : (Nat.toDigits 16 g).contains '.' = false := by
      rw [List.contains_eq_mem, decide_eq_false_iff_not]
      exact fun dot => (ne_colon_of_mem dot).2 rfl
    have own : g < 65536 := fine g (by simp)
    rw [ipv6Groups?, if_neg filled, parts]
    dsimp only
    rw [reversed]
    dsimp only
    rw [List.reverse_reverse, mapM_map fun h member => ipv6Group?_toDigits (fine h (List.mem_append_left _ member)),
      pointless, ipv6Group?_toDigits own]
    rfl

theorem dot_not_mem_joined (groups : List Nat) : '.' ∉ joined groups := by
  intro dot
  rcases mem_intercalate dot with colon | ⟨piece, there, inside⟩
  · exact absurd (List.mem_singleton.1 colon) (by decide)
  · obtain ⟨g, -, rfl⟩ := List.mem_map.1 there
    exact (ne_colon_of_mem inside).2 rfl

/-! ### Where a text is cut -/

theorem splitDouble?_cons {c : Char} (other : c ≠ ':') (cs : List Char) :
    splitDouble? (c :: cs) = (splitDouble? cs).map fun r => (c :: r.1, r.2) := by
  rw [splitDouble?]
  exact fun rest same _ => other same

theorem splitDouble?_colon {c : Char} (other : c ≠ ':') (cs : List Char) :
    splitDouble? (':' :: c :: cs) = (splitDouble? (c :: cs)).map fun r => (':' :: r.1, r.2) := by
  rw [splitDouble?]
  exact fun rest _ same => other (List.cons.inj same).1

theorem splitDouble?_append {piece : List Char} (whole : ∀ c ∈ piece, c ≠ ':') (cs : List Char) :
    splitDouble? (piece ++ cs) = (splitDouble? cs).map fun r => (piece ++ r.1, r.2) := by
  induction piece with
  | nil => simp
  | cons c piece ih =>
    rw [List.cons_append, splitDouble?_cons (whole c List.mem_cons_self),
      ih fun d member => whole d (List.mem_cons_of_mem c member), Option.map_map]
    rfl

/-- **No double colon is in joined groups** or across their end. -/
theorem splitDouble?_joined (groups : List Nat) (cs : List Char) :
    splitDouble? (joined groups ++ cs) = (splitDouble? cs).map fun r => (joined groups ++ r.1, r.2) := by
  induction groups with
  | nil => simp [joined]
  | cons g groups ih =>
    have whole : ∀ c ∈ Nat.toDigits 16 g, c ≠ ':' := fun c member => (ne_colon_of_mem member).1
    cases groups with
    | nil =>
      have alone : joined [g] = Nat.toDigits 16 g := by simp [joined]
      rw [alone, splitDouble?_append whole]
    | cons g' groups =>
      obtain ⟨c, ds, digits⟩ := List.exists_cons_of_ne_nil (toDigits_ne_nil g')
      have other : c ≠ ':' := (ne_colon_of_mem (digits ▸ List.mem_cons_self)).1
      obtain ⟨more, start⟩ : ∃ more, joined (g' :: groups) = c :: more := by
        cases groups with
        | nil => exact ⟨ds, by simp [joined, digits]⟩
        | cons g'' groups => exact ⟨_, by rw [joined_cons_cons, digits, List.cons_append]⟩
      rw [joined_cons_cons, List.append_assoc, splitDouble?_append whole, List.cons_append]
      rw [start] at ih ⊢
      rw [List.cons_append, splitDouble?_colon other, ← List.cons_append, ih, Option.map_map, Option.map_map]
      simp [Function.comp_def]

/-! ### The row of zeros that is left out -/

theorem zeros_of_longestZeros? {groups : List Nat} {i n : Nat} (found : longestZeros? groups = some (i, n)) :
    2 ≤ n ∧ n = zerosAtStart (groups.drop i) := by
  have kept : ∀ (places : List Nat) (best : Option (Nat × Nat)),
      (∀ b ∈ best, 2 ≤ b.2 ∧ b.2 = zerosAtStart (groups.drop b.1)) →
      ∀ b ∈ places.foldl (fun best i =>
        let n := zerosAtStart (groups.drop i)
        if 2 ≤ n ∧ (best.all fun b => b.2 < n) then some (i, n) else best) best,
      2 ≤ b.2 ∧ b.2 = zerosAtStart (groups.drop b.1) := by
    intro places
    induction places with
    | nil => exact fun _ known => known
    | cons i places ih =>
      intro best known
      refine ih _ ?_
      dsimp only
      split
      · rename_i better
        rintro b ⟨⟩
        exact ⟨better.1, rfl⟩
      · exact known
  exact kept _ none nofun (i, n) found

/-- What is left out are zeros. -/
theorem eq_append_zeros {groups : List Nat} {i n : Nat} (found : longestZeros? groups = some (i, n)) :
    groups = groups.take i ++ List.replicate n 0 ++ groups.drop (i + n) := by
  have zeros := (zeros_of_longestZeros? found).2
  have row : (groups.drop i).take n = List.replicate n 0 := by
    have own := List.prefix_iff_eq_take.1 (List.takeWhile_prefix (l := groups.drop i) (· = 0))
    rw [zeros, zerosAtStart, ← own]
    refine List.eq_replicate_iff.2 ⟨rfl, fun g member => ?_⟩
    have zero := List.mem_takeWhile_imp (p := fun g : Nat => decide (g = 0)) member
    exact of_decide_eq_true zero
  rw [← row, List.append_assoc, ← List.drop_drop, List.take_append_drop, List.take_append_drop]

/-! ### IPv6 addresses -/

theorem ipv6Tail?_groups {cs : List Char} {groups : List Nat} (read : ipv6Tail? cs = some groups) : AreGroups groups := by
  unfold ipv6Tail? at read
  dsimp only at read
  split at read
  · rename_i a b c d parts
    have byte : ∀ n ∈ [a, b, c, d], n ≤ 255 := by
      intro n member
      obtain ⟨p, -, own⟩ := exists_of_forall₂ (mapM_eq_some parts) member
      obtain ⟨-, own⟩ := Option.ite_none_right_eq_some.1 own
      obtain ⟨small, same⟩ := Option.ite_none_right_eq_some.1 own
      exact Option.some.inj same ▸ small
    have first := byte a (by simp)
    have second := byte b (by simp)
    have third := byte c (by simp)
    have fourth := byte d (by simp)
    obtain rfl := Option.some.inj read
    intro g member
    simp only [List.mem_cons, List.not_mem_nil, or_false] at member
    omega
  · cases read

theorem ipv6Groups?_groups {cs : List Char} {groups : List Nat} (read : ipv6Groups? cs = some groups) :
    AreGroups groups := by
  rw [ipv6Groups?] at read
  split at read
  · obtain rfl := Option.some.inj read
    exact fun g member => by cases member
  dsimp only at read
  split at read
  · cases read
  rename_i last front _
  obtain ⟨own, each, read⟩ := Option.bind_eq_some_iff.1 read
  obtain ⟨ending, fine, rfl⟩ : ∃ ending, AreGroups ending ∧ groups = own ++ ending := by
    split at read
    · obtain ⟨ending, tail, same⟩ := Option.bind_eq_some_iff.1 read
      exact ⟨ending, ipv6Tail?_groups tail, (Option.some.inj same).symm⟩
    · obtain ⟨ending, last, same⟩ := Option.bind_eq_some_iff.1 read
      obtain ⟨g, read, rfl⟩ := Option.map_eq_some_iff.1 last
      exact ⟨[g], List.forall_mem_singleton.2 (ipv6Group?_lt read), (Option.some.inj same).symm⟩
  intro g member
  rcases List.mem_append.1 member with before | behind
  · obtain ⟨p, -, read⟩ := exists_of_forall₂ (mapM_eq_some each) before
    exact ipv6Group?_lt read
  · exact fine g behind

/-- **What a text is read as** are eight groups. -/
theorem groups_of_ipv6? {cs : List Char} {groups : List Nat} (read : ipv6? cs = some groups) :
    groups.length = 8 ∧ AreGroups groups := by
  rw [ipv6?] at read
  split at read
  · split at read
    · rename_i own
      obtain ⟨size, same⟩ := Option.ite_none_right_eq_some.1 read
      obtain rfl := Option.some.inj same
      exact ⟨size, ipv6Groups?_groups own⟩
    · cases read
  · split at read
    · cases read
    split at read
    · rename_i a b first second
      obtain ⟨room, same⟩ := Option.ite_none_right_eq_some.1 read
      obtain rfl := Option.some.inj same
      refine ⟨by simp only [List.length_append, List.length_replicate]; omega, fun g member => ?_⟩
      simp only [List.mem_append, List.mem_replicate] at member
      rcases member with (front | ⟨-, rfl⟩) | back
      · exact ipv6Groups?_groups first g front
      · decide
      · exact ipv6Groups?_groups second g back
    · cases read

/-- **An IPv6 address that has been written** is read again. -/
theorem ipv6?_renderIpv6 {groups : List Nat} (size : groups.length = 8) (fine : AreGroups groups) :
    ipv6? (renderIpv6 groups).toList = some groups := by
  rw [renderIpv6]
  cases found : longestZeros? groups with
  | none =>
    have single := splitDouble?_joined groups []
    rw [List.append_nil, splitDouble?, Option.map_none] at single
    dsimp only
    rw [toList_hexText, ipv6?, single, ipv6Groups?_joined fine]
    exact if_pos size
  | some row =>
    obtain ⟨i, n⟩ := row
    have two := (zeros_of_longestZeros? found).1
    have parts := eq_append_zeros found
    have sizes := congrArg List.length parts
    simp only [List.length_append, List.length_replicate] at sizes
    have text : (String.intercalate ":" ((groups.take i).map hexText) ++ "::" ++
        String.intercalate ":" ((groups.drop (i + n)).map hexText)).toList =
        joined (groups.take i) ++ ':' :: ':' :: joined (groups.drop (i + n)) := by
      rw [String.toList_append, String.toList_append, toList_hexText, toList_hexText, List.append_assoc]
      rfl
    have cut := splitDouble?_joined (groups.take i) (':' :: ':' :: joined (groups.drop (i + n)))
    rw [splitDouble?, Option.map_some, List.append_nil] at cut
    dsimp only
    have front : (joined (groups.take i)).contains '.' = false := by
      rw [List.contains_eq_mem, decide_eq_false_iff_not]
      exact dot_not_mem_joined _
    rw [text, ipv6?, cut]
    dsimp only
    rw [front, ipv6Groups?_joined fun g member => fine g (List.mem_of_mem_take member),
      ipv6Groups?_joined fun g member => fine g (List.mem_of_mem_drop member)]
    dsimp only
    rw [if_neg Bool.false_ne_true, if_pos (by omega)]
    have left : 8 - (groups.take i).length - (groups.drop (i + n)).length = n := by omega
    rw [left, ← parts]

end BearerGate.Host
