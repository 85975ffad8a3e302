import BearerGate.Proofs.Unicode.Decomposition
import BearerGate.Unicode.Normalization

/-!
# Normal forms

A text in normal form stays as it is when it is normalized again (`normalize_normalize`): putting together does not
change what the text decomposes to (`decompose_normalize`).  While a text is put together, its decomposition is what has
been read so far (`Composing.Keeps`); a mark that is put together with the base comes out of it again in front of the
marks that were passed over, and behind them all the same, because marks of different classes can change places
(`insertMark_comm`).

A dot ends whatever is being put together, so the parts of a text between its dots are normalized one by one
(`normalize_dot`).
-/

namespace BearerGate.Unicode

/-! ### Marks in order -/

/-- Characters put behind a reversed text, marks in their places. -/
def place (acc cs : List Char) : List Char := cs.foldl (fun acc c => insertMark c acc) acc

@[simp]
theorem place_nil (acc : List Char) : place acc [] = acc := rfl

@[simp]
theorem place_cons (acc cs : List Char) (c : Char) : place acc (c :: cs) = place (insertMark c acc) cs := rfl

@[simp]
theorem place_append (acc cs cs' : List Char) : place acc (cs ++ cs') = place (place acc cs) cs' := List.foldl_append

theorem decompose_eq (cs : List Char) : decompose cs = (place [] (cs.flatMap decomposed)).reverse := rfl

/-- A character that stays where it is put, in front of a reversed text. -/
def Stays (c : Char) : List Char → Prop
  | [] => True
  | d :: _ => combiningClass c = 0 ∨ combiningClass d ≤ combiningClass c

/-- A reversed text whose marks are in order. -/
def InOrder : List Char → Prop
  | [] => True
  | c :: ds => Stays c ds ∧ InOrder ds

theorem insertMark_of_stays {c : Char} {ds : List Char} (stays : Stays c ds) : insertMark c ds = c :: ds := by
  cases ds with
  | nil => rfl
  | cons d ds =>
    rw [insertMark, if_neg]
    rintro ⟨mark, less⟩
    rcases stays with zero | more
    · exact mark zero
    · omega

theorem inOrder_insertMark {c : Char} {ds : List Char} (ordered : InOrder ds) : InOrder (insertMark c ds) := by
  induction ds with
  | nil => exact ⟨trivial, trivial⟩
  | cons d ds ih =>
    rw [insertMark]
    split
    · rename_i passes
      refine ⟨?_, ih ordered.2⟩
      cases ds with
      | nil => exact .inr (Nat.le_of_lt passes.2)
      | cons e es =>
        rw [insertMark]
        split
        · exact ordered.1
        · exact .inr (Nat.le_of_lt passes.2)
    · rename_i stays
      refine ⟨?_, ordered⟩
      by_cases zero : combiningClass c = 0
      · exact .inl zero
      · exact .inr (Nat.not_lt.1 fun less => stays ⟨zero, less⟩)

theorem inOrder_place {acc : List Char} (ordered : InOrder acc) (cs : List Char) : InOrder (place acc cs) := by
  induction cs generalizing acc with
  | nil => exact ordered
  | cons c cs ih => exact ih (inOrder_insertMark ordered)

theorem mem_insertMark {c d : Char} {ds : List Char} : d ∈ insertMark c ds ↔ d = c ∨ d ∈ ds := by
  induction ds with
  | nil => simp [insertMark]
  | cons e ds ih =>
    rw [insertMark]
    split
    · rw [List.mem_cons, ih, List.mem_cons, or_left_comm]
    · exact List.mem_cons

theorem mem_place {acc cs : List Char} {d : Char} : d ∈ place acc cs ↔ d ∈ cs ∨ d ∈ acc := by
  induction cs generalizing acc with
  | nil => simp
  | cons c cs ih => rw [place_cons, ih, mem_insertMark, List.mem_cons, or_left_comm, or_assoc]

/-- **Marks of different classes can change places.** -/
theorem insertMark_comm {m c : Char} (mark : combiningClass m ≠ 0) (less : combiningClass m < combiningClass c)
    (ds : List Char) : insertMark m (insertMark c ds) = insertMark c (insertMark m ds) := by
  have back : ¬combiningClass c < combiningClass m := by omega
  have mark' : combiningClass c ≠ 0 := by omega
  induction ds with
  | nil => simp [insertMark, mark, less, back]
  | cons d ds ih =>
    by_cases high : combiningClass c < combiningClass d
    · have high' : combiningClass m < combiningClass d := by omega
      simp [insertMark, mark, mark', high, high', ih]
    · by_cases middle : combiningClass m < combiningClass d
      · simp [insertMark, mark, less, high, middle]
      · simp [insertMark, mark, less, high, middle, back]

theorem place_insertMark {c : Char} {ms : List Char}
    (lower : ∀ m ∈ ms, combiningClass m ≠ 0 ∧ combiningClass m < combiningClass c) (acc : List Char) :
    place (insertMark c acc) ms = insertMark c (place acc ms) := by
  induction ms generalizing acc with
  | nil => rfl
  | cons m ms ih =>
    obtain ⟨mark, less⟩ := lower m List.mem_cons_self
    rw [place_cons, insertMark_comm mark less, ih fun d member => lower d (List.mem_cons_of_mem _ member), place_cons]

/-! ### Putting together -/

namespace Composing

/-- **What holds while a text is put together:** it decomposes to what has been read, reversed in `acc`, and the marks
that stay on their own are in order and not above what may come next. -/
structure Keeps (p : Composing) (acc : List Char) : Prop where
  spread : place [] (p.toList.flatMap decomposed) = acc
  marks : ∀ m ∈ p.marks, combiningClass m ≠ 0 ∧ decomposed m = [m]
  ordered : p.marks.Pairwise fun m m' => combiningClass m' ≤ combiningClass m
  below : ∀ c, combiningClass c ≠ 0 → Stays c acc → ∀ m ∈ p.marks, combiningClass m ≤ combiningClass c

theorem toList_push (p : Composing) (c : Char) : (p.push c).toList = p.toList ++ [c] := by
  rw [push]
  split <;> simp [toList]

variable {p : Composing} {acc : List Char} {c : Char}

theorem Keeps.push (keeps : p.Keeps acc) (final : decomposed c = [c]) (stays : Stays c acc) :
    (p.push c).Keeps (c :: acc) := by
  have spread : place [] ((p.push c).toList.flatMap decomposed) = c :: acc := by
    rw [toList_push, List.flatMap_append, place_append, keeps.spread, List.flatMap_cons, final]
    exact insertMark_of_stays stays
  by_cases zero : combiningClass c = 0
  · have alone : (p.push c).marks = [] := by rw [Composing.push, if_pos zero]
    exact
      { spread
        marks := by simp [alone]
        ordered := by simp [alone]
        below := by simp [alone] }
  · have more : (p.push c).marks = c :: p.marks := by rw [Composing.push, if_neg zero]
    have highest := keeps.below c zero stays
    refine { spread, marks := ?_, ordered := ?_, below := ?_ }
    · rw [more]
      exact List.forall_mem_cons.2 ⟨⟨zero, final⟩, keeps.marks⟩
    · rw [more]
      exact List.pairwise_cons.2 ⟨highest, keeps.ordered⟩
    · intro d mark next
      rw [more]
      have above : combiningClass c ≤ combiningClass d := next.resolve_left mark
      exact List.forall_mem_cons.2 ⟨above, fun m member => Nat.le_trans (highest m member) above⟩

/-- **A character is put together with the base.** -/
theorem Keeps.compose (keeps : p.Keeps acc) (final : decomposed c = [c]) (stays : Stays c acc) {base whole : Char}
    (own : p.base = some base) (near : p.isCutOff c = false) (composed : compose? base c = some whole) :
    Keeps { p with base := some whole } (c :: acc) := by
  have lower : ∀ m ∈ p.marks, combiningClass m ≠ 0 ∧ combiningClass m < combiningClass c := by
    intro m member
    refine ⟨(keeps.marks m member).1, ?_⟩
    rw [isCutOff] at near
    split at near
    · rename_i none_there
      rw [none_there] at member
      cases member
    · rename_i last front marks_eq
      have least := of_decide_eq_false near
      have ordered := keeps.ordered
      rw [marks_eq] at member ordered
      rcases List.mem_cons.1 member with rfl | there
      · omega
      · have := (List.pairwise_cons.1 ordered).1 m there
        omega
  have marks_final : p.marks.reverse.flatMap decomposed = p.marks.reverse := by
    have each : p.marks.reverse.flatMap decomposed = p.marks.reverse.flatMap fun m => [m] :=
      List.flatMap_congr fun m member => (keeps.marks m (List.mem_reverse.1 member)).2
    rw [each, List.flatMap_singleton']
  have text : ∀ b, ({ p with base := some b } : Composing).toList.flatMap decomposed =
      p.done.reverse.flatMap decomposed ++ (decomposed b ++ p.marks.reverse) := by
    intro b
    simp [toList, marks_final]
  have same : p = { p with base := some base } := by rw [← own]
  have read := keeps.spread
  rw [same, text, ← List.append_assoc, place_append] at read
  refine { spread := ?_, marks := keeps.marks, ordered := keeps.ordered, below := ?_ }
  · rw [text, decomposed_compose? composed, final, List.append_assoc, ← List.append_assoc, place_append,
      List.singleton_append, place_cons, place_insertMark fun m member => lower m (List.mem_reverse.1 member), read]
    exact insertMark_of_stays stays
  · intro d mark next m member
    have above : combiningClass c ≤ combiningClass d := next.resolve_left mark
    have := (lower m member).2
    omega

theorem Keeps.add (keeps : p.Keeps acc) (final : decomposed c = [c]) (stays : Stays c acc) :
    (p.add c).Keeps (c :: acc) := by
  rw [Composing.add]
  split
  · exact keeps.push final stays
  · rename_i base own
    split
    · rename_i whole composed
      split at composed
      · cases composed
      · rename_i near
        exact keeps.compose final stays own (Bool.eq_false_iff.2 near) composed
    · exact keeps.push final stays

/-- A text that is decomposed and in order is kept. -/
theorem keeps_foldl {acc : List Char} (ordered : InOrder acc) (final : ∀ c ∈ acc, decomposed c = [c]) :
    (acc.reverse.foldl Composing.add {}).Keeps acc := by
  induction acc with
  | nil => exact { spread := rfl, marks := by simp, ordered := .nil, below := by simp }
  | cons c acc ih =>
    rw [List.reverse_cons, List.foldl_append]
    exact (ih ordered.2 fun d member => final d (List.mem_cons_of_mem _ member)).add (final c List.mem_cons_self)
      ordered.1

end Composing

/-- **Putting together changes no decomposition.** -/
theorem decompose_normalize (cs : List Char) : decompose (normalize cs) = decompose cs := by
  have final : ∀ c ∈ place [] (cs.flatMap decomposed), decomposed c = [c] := by
    intro c member
    obtain ⟨d, -, inside⟩ := List.mem_flatMap.1 ((mem_place.1 member).resolve_right List.not_mem_nil)
    exact decomposed_of_mem inside
  have keeps := Composing.keeps_foldl (inOrder_place (show InOrder [] from trivial) (cs.flatMap decomposed)) final
  rw [decompose_eq, decompose_eq, normalize, decompose_eq, keeps.spread]

/-- **A normal form is its own normal form.** -/
theorem normalize_normalize (cs : List Char) : normalize (normalize cs) = normalize cs := by
  rw [normalize, decompose_normalize]
  rfl

/-! ### Texts in normal form -/

theorem place_starters {cs : List Char} (starters : ∀ c ∈ cs, combiningClass c = 0) (acc : List Char) :
    place acc cs = cs.reverse ++ acc := by
  induction cs generalizing acc with
  | nil => rfl
  | cons c cs ih =>
    have stays : Stays c acc := by
      cases acc with
      | nil => trivial
      | cons d ds => exact .inl (starters c List.mem_cons_self)
    rw [place_cons, insertMark_of_stays stays, ih fun d member => starters d (List.mem_cons_of_mem _ member)]
    simp

/-- **A text is in normal form** if its characters decompose no further, are no marks and are never put together. -/
theorem normalize_eq_self {cs : List Char} (final : ∀ c ∈ cs, decomposed c = [c])
    (starters : ∀ c ∈ cs, combiningClass c = 0) (apart : ∀ a ∈ cs, ∀ b ∈ cs, compose? a b = none) :
    normalize cs = cs := by
  have spread : decompose cs = cs := by
    have each : cs.flatMap decomposed = cs.flatMap fun c => [c] := List.flatMap_congr final
    rw [decompose_eq, each, List.flatMap_singleton', place_starters starters, List.append_nil, List.reverse_reverse]
  -- What has been read ends in a character of the text, with no marks behind it.
  have run : ∀ (rest : List Char) (p : Composing), (∀ c ∈ rest, c ∈ cs) → p.marks = [] → (∀ b ∈ p.base, b ∈ cs) →
      (rest.foldl Composing.add p).toList = p.toList ++ rest := by
    intro rest
    induction rest with
    | nil => exact fun p _ _ _ => (List.append_nil _).symm
    | cons c rest ih =>
      intro p inside bare own
      have here := inside c List.mem_cons_self
      have alone : p.add c = p.push c := by
        rw [Composing.add]
        split
        · rfl
        · rename_i base known
          have never : (if p.isCutOff c then none else compose? base c) = none := by
            rw [apart base (own base known) c here, ite_self]
          rw [never]
      have pushed : p.push c = ⟨p.marks ++ p.base.toList ++ p.done, some c, []⟩ := by
        rw [Composing.push, if_pos (starters c here), bare]
      have last : ∀ b ∈ (p.push c).base, b ∈ cs := by
        intro b member
        rw [pushed] at member
        cases member
        exact here
      rw [List.foldl_cons, alone, ih _ (fun d member => inside d (List.mem_cons_of_mem _ member)) (by rw [pushed]) last,
        Composing.toList_push, List.append_assoc, List.singleton_append]
  rw [normalize, spread, run cs {} (fun _ member => member) rfl (fun b member => by cases member)]
  rfl

/-! ### What it consists of -/

/-- Every character of a decomposed text is from the decomposition of one. -/
theorem exists_of_mem_decompose {cs : List Char} {d : Char} (member : d ∈ decompose cs) : ∃ c ∈ cs, d ∈ decomposed c := by
  rw [decompose_eq, List.mem_reverse] at member
  exact List.mem_flatMap.1 ((mem_place.1 member).resolve_right List.not_mem_nil)

/-- **What holds of all characters that a text decomposes to,** and goes over to what is put together, holds of all
characters of its normal form. -/
theorem forall_mem_normalize {P : Char → Prop} (closed : ∀ {a b c}, compose? a b = some c → P a → P b → P c)
    {cs : List Char} (parts : ∀ c ∈ cs, ∀ d ∈ decomposed c, P d) : ∀ d ∈ normalize cs, P d := by
  have step : ∀ {p : Composing} {c : Char}, (∀ d ∈ p.toList, P d) → P c → ∀ d ∈ (p.add c).toList, P d := by
    intro p c before own
    have pushed : ∀ d ∈ (p.push c).toList, P d := by
      rw [Composing.toList_push]
      exact List.forall_mem_append.2 ⟨before, List.forall_mem_singleton.2 own⟩
    rw [Composing.add]
    split
    · exact pushed
    · rename_i base there
      split
      · rename_i whole composed
        split at composed
        · cases composed
        · have base_fine : P base := before base (by simp [Composing.toList, there])
          intro d member
          simp only [Composing.toList, List.mem_reverse, List.mem_append, Option.mem_toList] at member
          rcases member with (mark | same) | earlier
          · exact before d (by simp [Composing.toList, mark])
          · obtain rfl := Option.some.inj same
            exact closed composed base_fine own
          · exact before d (by simp [Composing.toList, earlier])
      · exact pushed
  have run : ∀ (ds : List Char) (p : Composing), (∀ d ∈ p.toList, P d) → (∀ d ∈ ds, P d) →
      ∀ d ∈ (ds.foldl Composing.add p).toList, P d := by
    intro ds
    induction ds with
    | nil => exact fun p before _ => before
    | cons c ds ih =>
      intro p before own
      exact ih _ (step before (own c List.mem_cons_self)) fun d member => own d (List.mem_cons_of_mem _ member)
  refine run _ {} (fun d member => by cases member) fun d member => ?_
  obtain ⟨c, there, inside⟩ := exists_of_mem_decompose member
  exact parts c there d inside

/-! ### Dots -/

theorem combiningClass_dot : combiningClass '.' = 0 := rfl

theorem insertMark_dot (c : Char) (ds acc : List Char) :
    insertMark c (ds ++ '.' :: acc) = insertMark c ds ++ '.' :: acc := by
  induction ds with
  | nil => simp [insertMark, combiningClass_dot]
  | cons d ds ih =>
    rw [List.cons_append, insertMark, insertMark]
    split
    · rw [ih, List.cons_append]
    · rfl

theorem place_dot (ds acc cs : List Char) : place (ds ++ '.' :: acc) cs = place ds cs ++ '.' :: acc := by
  induction cs generalizing ds with
  | nil => rfl
  | cons c cs ih => rw [place_cons, insertMark_dot, ih, place_cons]

theorem decompose_dot (front back : List Char) :
    decompose (front ++ '.' :: back) = decompose front ++ '.' :: decompose back := by
  have dot : decomposed '.' = ['.'] := rfl
  have first : insertMark '.' (place [] (front.flatMap decomposed)) = [] ++ '.' :: place [] (front.flatMap decomposed) := by
    refine insertMark_of_stays ?_
    cases place [] (front.flatMap decomposed) with
    | nil => trivial
    | cons d ds => exact .inl combiningClass_dot
  rw [decompose_eq, decompose_eq, decompose_eq, List.flatMap_append, List.flatMap_cons, dot, place_append, place_append,
    place_cons, first, place_nil, place_dot]
  simp

namespace Composing

/-- A text that is put together behind a dot, and the same text on its own; `front` is reversed. -/
inductive Behind (front : List Char) : Composing → Composing → Prop where
  | start (marks : List Char) : Behind front ⟨front, some '.', marks⟩ ⟨[], none, marks⟩
  | more (done : List Char) (base : Char) (marks : List Char) :
      Behind front ⟨done ++ '.' :: front, some base, marks⟩ ⟨done, some base, marks⟩

variable {front : List Char} {p q : Composing}

theorem Behind.toList (behind : Behind front p q) : p.toList = front.reverse ++ '.' :: q.toList := by
  cases behind <;> simp [Composing.toList]

theorem Behind.push (behind : Behind front p q) (c : Char) : Behind front (p.push c) (q.push c) := by
  cases behind with
  | start marks =>
    rw [Composing.push, Composing.push]
    split
    · have regroup : marks ++ (some '.').toList ++ front = (marks ++ (none : Option Char).toList ++ []) ++ '.' :: front := by
        simp
      dsimp only
      rw [regroup]
      exact .more _ c []
    · exact .start (c :: marks)
  | more done base marks =>
    rw [Composing.push, Composing.push]
    split
    · have regroup : marks ++ (some base).toList ++ (done ++ '.' :: front) =
          (marks ++ (some base).toList ++ done) ++ '.' :: front := by simp
      dsimp only
      rw [regroup]
      exact .more _ c []
    · exact .more done base (c :: marks)

theorem Behind.add (behind : Behind front p q) (c : Char) : Behind front (p.add c) (q.add c) := by
  cases behind with
  | start marks =>
    have apart : ∀ far, (if far = true then none else compose? '.' c) = none := by
      intro far
      split
      · rfl
      · exact Option.eq_none_iff_forall_ne_some.2 fun whole composed => (ne_dot_of_compose? composed).1 rfl
    have alone : (⟨front, some '.', marks⟩ : Composing).add c = (⟨front, some '.', marks⟩ : Composing).push c := by
      simp only [Composing.add, apart]
    rw [alone]
    exact Behind.push (.start marks) c
  | more done base marks =>
    have pushed := Behind.push (.more done base marks : Behind front _ _) c
    simp only [Composing.add]
    have same : (⟨done ++ '.' :: front, some base, marks⟩ : Composing).isCutOff c =
        (⟨done, some base, marks⟩ : Composing).isCutOff c := rfl
    rw [same]
    split
    · exact .more done _ marks
    · exact pushed

theorem Behind.foldl (behind : Behind front p q) (cs : List Char) :
    Behind front (cs.foldl Composing.add p) (cs.foldl Composing.add q) := by
  induction cs generalizing p q with
  | nil => exact behind
  | cons c cs ih => exact ih (behind.add c)

theorem add_dot (p : Composing) : p.add '.' = ⟨p.marks ++ p.base.toList ++ p.done, some '.', []⟩ := by
  have pushed : p.push '.' = ⟨p.marks ++ p.base.toList ++ p.done, some '.', []⟩ := if_pos combiningClass_dot
  rw [Composing.add]
  split
  · exact pushed
  · split
    · rename_i whole composed
      split at composed
      · cases composed
      · exact absurd rfl (ne_dot_of_compose? composed).2.1
    · exact pushed

end Composing

/-- **What stands before a dot and what stands behind it** are normalized each on its own. -/
theorem normalize_dot (front back : List Char) :
    normalize (front ++ '.' :: back) = normalize front ++ '.' :: normalize back := by
  have text := ((.start [] : Composing.Behind ((decompose front).foldl Composing.add {}).toList.reverse _ _).foldl
    (decompose back)).toList
  rw [List.reverse_reverse] at text
  rw [normalize, normalize, normalize, decompose_dot, List.foldl_append, List.foldl_cons, Composing.add_dot, ← text]
  simp [Composing.toList]

/-- A normal form has a dot only where the text has one. -/
theorem dot_not_mem_normalize {cs : List Char} (absent : '.' ∉ cs) : '.' ∉ normalize cs := by
  have other : ∀ d ∈ normalize cs, d ≠ '.' := by
    refine forall_mem_normalize (fun composed _ _ => (ne_dot_of_compose? composed).2.2) ?_
    rintro c member d inside rfl
    exact absent (eq_dot_of_mem inside ▸ member)
  exact fun member => other '.' member rfl

end BearerGate.Unicode
