import BearerGate.Url.Punycode
import Mathlib.Algebra.Group.Nat.Defs

/-!
# Reading what was written in ASCII

A text that was written in ASCII is read again as that text (`decode?_encode?`), if it is short enough for the numbers
to stay below the limit (`Short`).  The writer passes the characters of one code point after the other, the reader
inserts them; what holds between the two at every place (`Along`) is that the reader has inserted exactly the characters
that the writer has dealt with, and that the writer's delta leads from the reader's place to the writer's.  A step of
the writer writes digits that take the reader to where this holds again (`Along.pass`), so the whole text is read by
induction over its characters and its code points.

The reader also checks the weights of digits against the limit.  They cannot pass it before the number does, because
the bias that a number below the limit leaves is small (`adapt_le`).
-/

namespace BearerGate.Punycode

/-! ### Digits -/

theorem digitValue?_digit {n : Nat} (small : n < 36) : digitValue? (digit n) = some n := by
  have all : ∀ n < 36, digitValue? (digit n) = some n := by decide
  exact all n small

theorem threshold_bounds (place bias : Nat) : 1 ≤ threshold place bias ∧ threshold place bias ≤ 26 := by
  unfold threshold
  split
  · omega
  · split <;> omega

/-- A number of the base that goes with a threshold is its lowest digit and the number that the others are. -/
theorem digit_add_rest {q t : Nat} (least : t ≤ q) :
    t + (q - t) % (36 - t) + (q - t) / (36 - t) * (36 - t) = q := by
  have parts := Nat.mod_add_div' (q - t) (36 - t)
  omega

/-- Digits are digits. -/
theorem digitValue?_of_mem_deltaDigits {fuel q k bias : Nat} {c : Char} (member : c ∈ deltaDigits fuel q k bias) :
    (digitValue? c).isSome = true := by
  induction fuel generalizing q k with
  | zero => cases member
  | succ fuel ih =>
    have bounds := threshold_bounds k bias
    rw [deltaDigits] at member
    split at member
    · rw [List.mem_singleton.1 member, digitValue?_digit (by omega)]
      rfl
    · rcases List.mem_cons.1 member with rfl | later
      · have rest := Nat.mod_lt (q - threshold k bias) (show 0 < 36 - threshold k bias by omega)
        rw [digitValue?_digit (by omega)]
        rfl
      · exact ih later

/-- A number is written with one digit at least. -/
theorem exists_deltaDigits (fuel q k bias : Nat) : ∃ d digits, deltaDigits (fuel + 1) q k bias = d :: digits := by
  rw [deltaDigits]
  split
  · exact ⟨_, _, rfl⟩
  · exact ⟨_, _, rfl⟩

/-! ### The bias -/

theorem adapt_go_le {fuel k delta n : Nat} (small : delta < 456 * 35 ^ n) : adapt.go fuel k delta ≤ k + 36 * n + 35 := by
  induction fuel generalizing k delta n with
  | zero =>
    rw [adapt.go]
    omega
  | succ fuel ih =>
    rw [adapt.go]
    split
    · have skewed : 36 * delta / (delta + 38) < 36 := Nat.div_lt_of_lt_mul (by omega)
      omega
    · cases n with
      | zero => omega
      | succ n =>
        have lower : delta / 35 < 456 * 35 ^ n := by
          rw [Nat.pow_succ] at small
          exact Nat.div_lt_of_lt_mul (by omega)
        have := ih (k := k + 36) lower
        omega

/-- **The bias stays small** after numbers below the limit. -/
theorem adapt_le {delta : Nat} (points : Nat) (first : Bool) (small : delta ≤ limit) :
    adapt delta points first ≤ 215 := by
  rw [limit] at small
  have damped : (if first = true then delta / 700 else delta / 2) ≤ delta / 2 := by
    split
    · omega
    · exact Nat.le_refl _
  rw [adapt]
  generalize (if first = true then delta / 700 else delta / 2) = d at damped
  have spread := Nat.div_le_self d points
  have small' : d + d / points < 456 * 35 ^ 5 := by omega
  have bounded : adapt.go (d + d / points) 0 (d + d / points) ≤ 0 + 36 * 5 + 35 := adapt_go_le small'
  exact bounded

/-! ### One number -/

/-- **The weight of the next digit is below the limit** if there is a next digit and the number is below it. -/
theorem weight_le {bias j w q : Nat} (low : bias ≤ 215) (weight : w ≤ 35 ^ j)
    (more : threshold (36 * (j + 1)) bias ≤ q) (fits : q * w ≤ limit) :
    w * (36 - threshold (36 * (j + 1)) bias) ≤ limit := by
  have least := (threshold_bounds (36 * (j + 1)) bias).1
  by_cases early : j ≤ 5
  · calc w * (36 - threshold (36 * (j + 1)) bias)
      _ ≤ 35 ^ 5 * 35 :=
        Nat.mul_le_mul (Nat.le_trans weight (Nat.pow_le_pow_right (by decide) early)) (by omega)
      _ ≤ limit := by decide
  · -- The place is so far behind the bias that its threshold is the greatest one.
    have late : threshold (36 * (j + 1)) bias = 26 := by
      rw [threshold, if_neg (by omega), if_pos (by omega)]
    rw [late] at more ⊢
    calc w * (36 - 26)
      _ ≤ w * q := Nat.mul_le_mul_left w (by omega)
      _ ≤ limit := by rw [Nat.mul_comm]; exact fits

/-- **A number that was written is read again,** with the sum that it is added to. -/
theorem readDelta?_deltaDigits {bias : Nat} (low : bias ≤ 215) {fuel q j w sum : Nat} (fuelled : q < fuel)
    (weight : w ≤ 35 ^ j) (heavy : 1 ≤ w) (fits : sum + q * w ≤ limit) (rest : List Char) :
    readDelta? bias (deltaDigits fuel q (36 * (j + 1)) bias ++ rest) (36 * (j + 1)) w sum =
      some (sum + q * w, rest) := by
  induction fuel generalizing q j w sum with
  | zero => omega
  | succ fuel ih =>
    have bounds := threshold_bounds (36 * (j + 1)) bias
    have within : ∀ d, sum + d * w ≤ limit → ¬(limit - sum) / w < d := by
      intro d small
      rw [Nat.not_lt, Nat.le_div_iff_mul_le heavy]
      omega
    rw [deltaDigits]
    by_cases last : q < threshold (36 * (j + 1)) bias
    · rw [if_pos last, List.cons_append, List.nil_append, readDelta?, digitValue?_digit (by omega)]
      dsimp only
      rw [if_neg (within q fits), if_pos last]
    · have least := Nat.not_lt.1 last
      have next := weight_le low weight least (by omega)
      have smaller := Nat.mod_lt (q - threshold (36 * (j + 1)) bias)
        (show 0 < 36 - threshold (36 * (j + 1)) bias by omega)
      rw [if_neg last, List.cons_append, readDelta?, digitValue?_digit (by omega)]
      dsimp only
      generalize threshold (36 * (j + 1)) bias = t at *
      have value := digit_add_rest least
      have total : (t + (q - t) % (36 - t)) * w + (q - t) / (36 - t) * (w * (36 - t)) = q * w := by
        rw [Nat.mul_comm w, ← Nat.mul_assoc, ← Nat.add_mul, value]
      have shorter : (q - t) / (36 - t) < fuel :=
        Nat.lt_of_le_of_lt (Nat.div_le_self _ _) (by omega)
      rw [if_neg (within _ (by omega)), if_neg (by omega), if_neg]
      · have heavier : w * (36 - t) ≤ 35 ^ (j + 1) := by
          rw [Nat.pow_succ]
          exact Nat.mul_le_mul weight (by omega)
        have below : sum + (t + (q - t) % (36 - t)) * w + (q - t) / (36 - t) * (w * (36 - t)) ≤ limit := by omega
        have again := ih shorter heavier (Nat.mul_pos heavy (by omega)) below
        rw [Nat.add_assoc sum, total] at again
        exact again
      · rw [Nat.not_lt, Nat.le_div_iff_mul_le (by omega)]
        exact next

/-- **A number is not read** whose sum is beyond the limit. -/
theorem readDelta?_beyond {bias fuel q k w sum : Nat} (fuelled : q < fuel) (heavy : 1 ≤ w) (low : sum ≤ limit)
    (beyond : limit < sum + q * w) (rest : List Char) :
    readDelta? bias (deltaDigits fuel q k bias ++ rest) k w sum = none := by
  induction fuel generalizing q k w sum with
  | zero => omega
  | succ fuel ih =>
    have bounds := threshold_bounds k bias
    have within : ∀ d, ¬(limit - sum) / w < d → sum + d * w ≤ limit := by
      intro d small
      rw [Nat.not_lt, Nat.le_div_iff_mul_le heavy] at small
      omega
    rw [deltaDigits]
    by_cases last : q < threshold k bias
    · rw [if_pos last, List.cons_append, readDelta?, digitValue?_digit (by omega)]
      dsimp only
      refine if_pos (Classical.byContradiction fun small => ?_)
      have := within q small
      omega
    · have least := Nat.not_lt.1 last
      have smaller := Nat.mod_lt (q - threshold k bias) (show 0 < 36 - threshold k bias by omega)
      rw [if_neg last, List.cons_append, readDelta?, digitValue?_digit (by omega)]
      dsimp only
      generalize threshold k bias = t at *
      have value := digit_add_rest least
      have total : (t + (q - t) % (36 - t)) * w + (q - t) / (36 - t) * (w * (36 - t)) = q * w := by
        rw [Nat.mul_comm w, ← Nat.mul_assoc, ← Nat.add_mul, value]
      have shorter : (q - t) / (36 - t) < fuel :=
        Nat.lt_of_le_of_lt (Nat.div_le_self _ _) (by omega)
      split
      · rfl
      · rename_i small
        rw [if_neg (by omega)]
        split
        · rfl
        · refine ih shorter (Nat.mul_pos heavy (by omega)) (within _ small) ?_
          rw [Nat.add_assoc, total]
          exact beyond

/-! ### Readers -/

/-- A reader in the middle of a text. -/
structure Reader where
  bias : Nat
  point : Nat
  place : Nat
  text : List Char

namespace Reader

/-- What the reader makes of the rest. -/
def run? (r : Reader) (cs : List Char) : Option (List Char) := insertAll? r.bias r.point r.place r.text cs

/-- **Digits take a reader on,** whatever follows them. -/
def Takes (r : Reader) (digits : List Char) (r' : Reader) : Prop :=
  ∀ rest, r.run? (digits ++ rest) = r'.run? rest

theorem Takes.refl (r : Reader) : r.Takes [] r := fun _ => rfl

theorem Takes.trans {r r' r'' : Reader} {digits digits' : List Char} (first : r.Takes digits r')
    (second : r'.Takes digits' r'') : r.Takes (digits ++ digits') r'' := by
  intro rest
  rw [List.append_assoc, first, second]

/-- The reader after it has inserted a character. -/
def inserted (r : Reader) (delta point place : Nat) (c : Char) : Reader where
  bias := adapt delta (r.text.length + 1) (r.place = 0)
  point
  place := place + 1
  text := insertAt place c r.text

/-- **A delta is read:** it leads to the place where the character is inserted. -/
theorem takes_deltaDigits {r : Reader} (low : r.bias ≤ 215) {delta place : Nat} {c : Char} (behind : r.point ≤ c.toNat)
    (inside : place ≤ r.text.length)
    (leads : r.place + delta = (c.toNat - r.point) * (r.text.length + 1) + place) (fits : r.place + delta ≤ limit) :
    r.Takes (deltaDigits (delta + 2) delta 36 r.bias) (r.inserted delta c.toNat place c) := by
  intro rest
  have read : readDelta? r.bias (deltaDigits (delta + 2) delta 36 r.bias ++ rest) 36 1 r.place =
      some (r.place + delta, rest) := by
    rw [← Nat.mul_one delta] at fits
    have whole : readDelta? r.bias (deltaDigits (delta + 2) delta 36 r.bias ++ rest) 36 1 r.place =
        some (r.place + delta * 1, rest) :=
      readDelta?_deltaDigits low (j := 0) (show delta < delta + 2 by omega) (Nat.le_refl _) (Nat.le_refl _) fits rest
    rwa [Nat.mul_one] at whole
  have quotient : (r.place + delta) / (r.text.length + 1) = c.toNat - r.point := by
    rw [leads, Nat.mul_comm, Nat.mul_add_div (by omega), Nat.div_eq_of_lt (by omega), Nat.add_zero]
  have remainder : (r.place + delta) % (r.text.length + 1) = place := by
    rw [leads, Nat.mul_comm, Nat.mul_add_mod, Nat.mod_eq_of_lt (by omega)]
  obtain ⟨d, digits, written⟩ := exists_deltaDigits (delta + 1) delta 36 r.bias
  rw [run?, written, List.cons_append, insertAll?]
  rw [written, List.cons_append] at read
  have next : r.point + (c.toNat - r.point) = c.toNat := by omega
  have valid : c.toNat.isValidChar := c.valid
  split
  · rename_i unread
    rw [read] at unread
    cases unread
  · rename_i sum left same
    rw [read] at same
    cases same
    dsimp only
    rw [quotient, remainder, next, if_pos valid, Char.ofNat_toNat, Nat.add_sub_cancel_left]
    rfl

end Reader

/-! ### Writer and reader side by side -/

/-- What has been inserted while the writer is busy with a code point and has passed `done` of the text. -/
def known (point : Nat) (done rest : List Char) : List Char :=
  done.filter (·.toNat ≤ point) ++ rest.filter (·.toNat < point)

/-- What holds between writer and reader wherever they are. -/
structure Together (basic : Nat) (p : Progress) (r : Reader) : Prop where
  bias : p.bias = r.bias
  low : r.bias ≤ 215
  handled : p.handled = r.text.length
  least : basic ≤ p.handled
  first : p.handled = basic ↔ r.place = 0

/-- **The reader is where the writer is** in the characters of one code point: it knows what the writer has dealt with,
and the delta leads from its place to the writer's. -/
structure Along (basic point : Nat) (done rest : List Char) (p : Progress) (r : Reader) : Prop
    extends Together basic p r where
  text : r.text = known point done rest
  behind : r.point ≤ point
  leads : r.place + p.delta = (point - r.point) * (p.handled + 1) + (done.filter (·.toNat ≤ point)).length

/-- Digits that have been written take a reader on. -/
structure Written (p p' : Progress) (r r' : Reader) (digits : List Char) : Prop where
  written : p'.written = p.written ++ digits
  plain : ∀ c ∈ digits, (digitValue? c).isSome = true
  takes : r.Takes digits r'

theorem Written.refl {p p' : Progress} (r : Reader) (same : p'.written = p.written) : Written p p' r r [] where
  written := by rw [same, List.append_nil]
  plain := fun c member => by cases member
  takes := .refl r

theorem Written.trans {p p' p'' : Progress} {r r' r'' : Reader} {digits digits' : List Char}
    (first : Written p p' r r' digits) (second : Written p' p'' r' r'' digits') :
    Written p p'' r r'' (digits ++ digits') where
  written := by rw [second.written, first.written, List.append_assoc]
  plain := fun c member => (List.mem_append.1 member).elim (first.plain c) (second.plain c)
  takes := first.takes.trans second.takes

section Side

variable {basic point : Nat} {done rest : List Char} {c : Char} {p : Progress} {r : Reader}

/-- **A step of the writer** takes the reader along. -/
theorem Along.pass (along : Along basic point done (c :: rest) p r)
    (short : (point + 1) * (done ++ c :: rest).length ≤ limit) :
    ∃ digits r', Written p (p.pass basic point c.toNat) r r' digits ∧
      Along basic point (done ++ [c]) rest (p.pass basic point c.toNat) r' := by
  rcases Nat.lt_trichotomy c.toNat point with before | here | after
  · -- The character was there already, and the place moves on behind it.
    have passed : p.pass basic point c.toNat = { p with delta := p.delta + 1 } := if_pos before
    rw [passed]
    refine ⟨[], r, .refl r rfl, { along with text := ?_, leads := ?_ }⟩
    · rw [along.text, known, known]
      simp [before, Nat.le_of_lt before]
    · have leads := along.leads
      simp only [List.filter_append, List.filter_cons, Nat.le_of_lt before, decide_true, if_true, List.filter_nil,
        List.length_append, List.length_singleton]
      omega
  · have passed : p.pass basic point c.toNat = p.write basic := by
      rw [Progress.pass, if_neg (by omega), if_pos here]
    rw [passed]
    have text : r.text = done.filter (·.toNat ≤ point) ++ rest.filter (·.toNat < point) := by
      rw [along.text, known, List.filter_cons_of_neg (by simp [here])]
    generalize inside_eq : done.filter (·.toNat ≤ point) = before at text
    have inside : before.length ≤ r.text.length := by
      rw [text, List.length_append]
      omega
    have leads := along.leads
    rw [inside_eq, along.handled] at leads
    have room : r.text.length + 1 ≤ (done ++ c :: rest).length := by
      have front := List.length_filter_le (fun c : Char => decide (c.toNat ≤ point)) done
      have back := List.length_filter_le (fun c : Char => decide (c.toNat < point)) rest
      rw [inside_eq] at front
      rw [text, List.length_append, List.length_append, List.length_cons]
      omega
    have fits : r.place + p.delta ≤ limit := by
      calc r.place + p.delta
        _ = (point - r.point) * (r.text.length + 1) + before.length := leads
        _ ≤ point * (done ++ c :: rest).length + (done ++ c :: rest).length :=
          Nat.add_le_add (Nat.mul_le_mul (Nat.sub_le _ _) room) (by omega)
        _ = (point + 1) * (done ++ c :: rest).length := (Nat.succ_mul _ _).symm
        _ ≤ limit := short
    have takes := Reader.takes_deltaDigits along.low (here ▸ along.behind) inside (here ▸ leads) fits
    have started : decide (p.handled = basic) = decide (r.place = 0) := decide_eq_decide.2 along.first
    refine ⟨_, r.inserted p.delta c.toNat before.length c,
      ⟨?_, fun d member => digitValue?_of_mem_deltaDigits member, takes⟩,
      { bias := ?_, low := adapt_le _ _ (by omega), handled := ?_, least := ?_, first := ?_, text := ?_,
        behind := Nat.le_of_eq here, leads := ?_ }⟩
    · rw [← along.bias]
      rfl
    · change adapt p.delta (p.handled + 1) (decide (p.handled = basic)) = _
      rw [started, along.handled]
      rfl
    · change p.handled + 1 = (insertAt before.length c r.text).length
      rw [along.handled, insertAt, List.length_append, List.length_cons, List.length_take, List.length_drop]
      omega
    · exact Nat.le_succ_of_le along.least
    · have least := along.least
      change p.handled + 1 = basic ↔ before.length + 1 = 0
      omega
    · change insertAt before.length c r.text = known point (done ++ [c]) rest
      rw [known, List.filter_append, inside_eq, List.filter_cons_of_pos (by simp [here]), text, insertAt,
        List.take_left, List.drop_left]
      simp
    · change before.length + 1 + 0 = (point - c.toNat) * _ + _
      rw [here, Nat.sub_self, Nat.zero_mul, List.filter_append, inside_eq, List.filter_cons_of_pos (by simp [here])]
      simp
  · have passed : p.pass basic point c.toNat = p := by
      rw [Progress.pass, if_neg (by omega), if_neg (by omega)]
    rw [passed]
    have later : ¬c.toNat ≤ point := by omega
    have later' : ¬c.toNat < point := by omega
    refine ⟨[], r, .refl r rfl, { along with text := ?_, leads := ?_ }⟩
    · rw [along.text, known, known]
      simp [later, later']
    · have leads := along.leads
      simpa [later] using leads

/-- The rest of the text, for one code point. -/
theorem Along.sweep (along : Along basic point done rest p r) (short : (point + 1) * (done ++ rest).length ≤ limit) :
    ∃ digits r', Written p ((rest.map Char.toNat).foldl (Progress.pass basic point) p) r r' digits ∧
      Along basic point (done ++ rest) [] ((rest.map Char.toNat).foldl (Progress.pass basic point) p) r' := by
  induction rest generalizing done p r with
  | nil =>
    rw [List.append_nil]
    exact ⟨[], r, .refl r rfl, along⟩
  | cons c rest ih =>
    obtain ⟨digits, r', written, along'⟩ := along.pass short
    have again : done ++ c :: rest = (done ++ [c]) ++ rest := by simp
    rw [again] at short ⊢
    obtain ⟨digits', r'', written', along''⟩ := ih along' short
    exact ⟨digits ++ digits', r'', written.trans written', along''⟩

end Side

/-! ### The whole text -/

/-- **Between two code points** the reader has inserted all characters before the next one. -/
structure Between (basic : Nat) (text : List Char) (p : Progress) (r : Reader) : Prop extends Together basic p r where
  text_eq : r.text = text.filter (·.toNat < p.next)
  behind : r.point ≤ p.next
  leads : r.place + p.delta = (p.next - r.point) * (p.handled + 1)

section Whole

variable {basic : Nat} {text : List Char} {p : Progress} {r : Reader}

/-- No character is passed over on the way to the next code point. -/
theorem Between.along {point : Nat} (between : Between basic text p r) (ahead : p.next ≤ point)
    (next : ∀ c ∈ text, c.toNat < p.next ∨ point ≤ c.toNat) : Along basic point [] text (p.reach point) r :=
  { between with
    text := by
      rw [between.text_eq, known, List.filter_nil, List.nil_append]
      refine List.filter_congr fun c member => decide_eq_decide.2 ?_
      rcases next c member with before | behind
      · omega
      · omega
    behind := Nat.le_trans between.behind ahead
    leads := by
      have behind := between.behind
      have leads := between.leads
      have parts : point - r.point = (p.next - r.point) + (point - p.next) := by omega
      change r.place + (p.delta + (point - p.next) * (p.handled + 1)) = (point - r.point) * (p.handled + 1) + 0
      rw [parts, Nat.add_mul]
      omega }

/-- **The characters of the next code point** are read as they were written. -/
theorem Between.insert {point : Nat} (between : Between basic text p r) (ahead : p.next ≤ point)
    (next : ∀ c ∈ text, c.toNat < p.next ∨ point ≤ c.toNat) (short : (point + 1) * text.length ≤ limit) :
    ∃ digits r', Written p (p.insert basic (text.map Char.toNat) point) r r' digits ∧
      Between basic text (p.insert basic (text.map Char.toNat) point) r' := by
  obtain ⟨digits, r', written, along⟩ := (between.along ahead next).sweep short
  rw [List.nil_append] at along
  have text_eq := along.text
  rw [known, List.filter_nil, List.append_nil] at text_eq
  refine ⟨digits, r', ⟨written.written, written.plain, written.takes⟩,
    { along with text_eq := ?_, behind := Nat.le_succ_of_le along.behind, leads := ?_ }⟩
  · rw [text_eq]
    exact List.filter_congr fun c _ => decide_eq_decide.2 Nat.lt_succ_iff.symm
  · have leads := along.leads
    have behind := along.behind
    have parts : point + 1 - r'.point = (point - r'.point) + 1 := by omega
    rw [← text_eq, ← along.handled] at leads
    simp only [Progress.insert]
    rw [parts, Nat.succ_mul]
    omega

/-- **All code points, one after the other.** -/
theorem Between.run {ps : List Nat} (between : Between basic text p r) (ascending : (p.next :: ps).Pairwise (· ≤ ·))
    (distinct : ps.Pairwise (· < ·)) (covered : ∀ c ∈ text, c.toNat < p.next ∨ c.toNat ∈ ps)
    (short : ∀ point ∈ ps, (point + 1) * text.length ≤ limit) :
    ∃ digits r', Written p (ps.foldl (Progress.insert basic (text.map Char.toNat)) p) r r' digits ∧ r'.text = text := by
  induction ps generalizing p r with
  | nil =>
    refine ⟨[], r, .refl r rfl, ?_⟩
    rw [between.text_eq, List.filter_eq_self]
    intro c member
    rcases covered c member with before | never
    · exact decide_eq_true before
    · cases never
  | cons point ps ih =>
    have ahead : p.next ≤ point := List.rel_of_pairwise_cons ascending List.mem_cons_self
    have later : ∀ q ∈ ps, point < q := fun q member => List.rel_of_pairwise_cons distinct member
    have next : ∀ c ∈ text, c.toNat < p.next ∨ point ≤ c.toNat := by
      intro c member
      rcases covered c member with before | listed
      · exact .inl before
      · rcases List.mem_cons.1 listed with here | behind
        · exact .inr (Nat.le_of_eq here.symm)
        · exact .inr (Nat.le_of_lt (later _ behind))
    obtain ⟨digits, r', written, between'⟩ := between.insert ahead next (short point List.mem_cons_self)
    have ascending' : ((p.insert basic (text.map Char.toNat) point).next :: ps).Pairwise (· ≤ ·) :=
      List.pairwise_cons.2 ⟨later, (List.pairwise_cons.1 (List.pairwise_cons.1 ascending).2).2⟩
    have covered' : ∀ c ∈ text, c.toNat < (p.insert basic (text.map Char.toNat) point).next ∨ c.toNat ∈ ps := by
      intro c member
      change c.toNat < point + 1 ∨ _
      rcases covered c member with before | listed
      · exact .inl (by omega)
      · rcases List.mem_cons.1 listed with here | behind
        · exact .inl (by omega)
        · exact .inr behind
    obtain ⟨digits', r'', written', whole⟩ := ih between' ascending' (List.pairwise_cons.1 distinct).2 covered'
      fun q member => short q (List.mem_cons_of_mem _ member)
    exact ⟨digits ++ digits', r'', written.trans written', whole⟩

end Whole

/-- The code points outside ASCII are those, each once and in order. -/
theorem mem_points {cs : List Nat} {n : Nat} : n ∈ points cs ↔ n ∈ cs ∧ 128 ≤ n := by
  rw [points, List.mem_eraseDups, List.mem_mergeSort, List.mem_filter, decide_eq_true_iff]

/-- What is left of a list in order without repeats is strictly in order. -/
theorem pairwise_eraseDups {ns : List Nat} (ordered : ns.Pairwise (· ≤ ·)) : ns.eraseDups.Pairwise (· < ·) := by
  induction h : ns.length using Nat.strongRecOn generalizing ns with
  | ind k ih =>
    cases ns with
    | nil => exact .nil
    | cons n ns =>
      rw [List.eraseDups_cons]
      have parts := List.pairwise_cons.1 ordered
      have kept := parts.2.filter fun m => !m == n
      have shorter : (ns.filter fun m => !m == n).length < k := by
        have := List.length_filter_le (fun m => !m == n) ns
        rw [← h, List.length_cons]
        omega
      refine List.pairwise_cons.2 ⟨fun m member => ?_, ih _ shorter kept rfl⟩
      rw [List.mem_eraseDups, List.mem_filter] at member
      have least := parts.1 m member.1
      have other : m ≠ n := by simpa using member.2
      omega

theorem pairwise_points (cs : List Nat) : (points cs).Pairwise (· < ·) := by
  refine pairwise_eraseDups ?_
  have sorted := @List.pairwise_mergeSort Nat (· ≤ ·)
    (fun a b c first second => decide_eq_true (Nat.le_trans (of_decide_eq_true first) (of_decide_eq_true second)))
    (fun a b => by simpa using Nat.le_total a b) (cs.filter (128 ≤ ·))
  exact sorted.imp of_decide_eq_true

/-- A hyphen is no digit. -/
theorem ne_hyphen {c : Char} (digit : (digitValue? c).isSome = true) : c ≠ '-' := by
  rintro rfl
  cases digit

/-- Where the ASCII characters end, in a text whose last part consists of digits. -/
theorem decode?_digits {digits : List Char} (plain : ∀ c ∈ digits, (digitValue? c).isSome = true)
    (front : List Char) : decode? ((if front = [] then [] else front ++ ['-']) ++ digits) =
      insertAll? 72 128 0 front digits := by
  have all : ∀ c ∈ digits.reverse, decide (c ≠ '-') = true := fun c member =>
    decide_eq_true (ne_hyphen (plain c (List.mem_reverse.1 member)))
  by_cases bare : front = []
  · have nothing : (digits.reverse ++ []).dropWhile (· ≠ '-') = [] := List.dropWhile_append_of_pos all
    rw [List.append_nil] at nothing
    rw [if_pos bare, List.nil_append, decode?, nothing, bare]
  · rw [if_neg bare, decode?]
    have reversed : (front ++ ['-'] ++ digits).reverse = digits.reverse ++ '-' :: front.reverse := by simp
    rw [reversed, List.dropWhile_append_of_pos all, List.takeWhile_append_of_pos all]
    simp

/-- A text is **short** if no character is so far from ASCII that its number could be beyond the limit. -/
def Short (text : List Char) : Prop := ∀ c ∈ text, (c.toNat + 1) * text.length ≤ limit

theorem between_start (text : List Char) : Between (text.filter (·.toNat < 128)).length text
    (.start (text.filter (·.toNat < 128))) ⟨72, 128, 0, text.filter (·.toNat < 128)⟩ where
  bias := rfl
  low := show 72 ≤ 215 by decide
  handled := rfl
  least := Nat.le_refl _
  first := by simp [Progress.start]
  text_eq := rfl
  behind := Nat.le_refl _
  leads := by simp [Progress.start]

/-- **What is written:** the ASCII characters, and then digits that lead back to the text. -/
theorem exists_digits {text written : List Char} (short : Short text) (encoded : encode? text = some written) :
    ∃ digits, (∀ c ∈ digits, (digitValue? c).isSome = true) ∧
      written = (if text.filter (·.toNat < 128) = [] then [] else text.filter (·.toNat < 128) ++ ['-']) ++ digits ∧
      insertAll? 72 128 0 (text.filter (·.toNat < 128)) digits = some text := by
  have listed : ∀ n, n ∈ points (text.map Char.toNat) ↔ (∃ c ∈ text, c.toNat = n) ∧ 128 ≤ n := by
    intro n
    rw [mem_points, List.mem_map]
  have distinct := pairwise_points (text.map Char.toNat)
  obtain ⟨digits, r, run, whole⟩ := (between_start text).run
    (List.pairwise_cons.2 ⟨fun n member => ((listed n).1 member).2, distinct.imp Nat.le_of_lt⟩) distinct
    (fun c member => (Nat.lt_or_ge c.toNat 128).imp_right fun large => (listed _).2 ⟨⟨c, member, rfl⟩, large⟩)
    (fun n member => by
      obtain ⟨⟨c, there, rfl⟩, -⟩ := (listed n).1 member
      exact short c there)
  rw [encode?] at encoded
  obtain ⟨-, encoded⟩ := Option.ite_none_right_eq_some.1 encoded
  refine ⟨digits, run.plain, (Option.some.inj encoded).symm.trans run.written, ?_⟩
  have read := run.takes []
  rw [List.append_nil] at read
  change insertAll? _ _ _ _ _ = insertAll? _ _ _ _ _ at read
  rw [read, insertAll?, whole]

/-- **A text that was written in ASCII is read again.** -/
theorem decode?_encode? {text written : List Char} (short : Short text) (encoded : encode? text = some written) :
    decode? written = some text := by
  obtain ⟨digits, plain, rfl, read⟩ := exists_digits short encoded
  rw [decode?_digits plain, read]

/-! ### What is written, and how much -/

/-- What is counted by two sets of numbers that have none in common. -/
theorem countP_mem_cons {n : Nat} {ns : List Nat} (new : n ∉ ns) (cs : List Nat) :
    cs.countP (· ∈ n :: ns) = cs.count n + cs.countP (· ∈ ns) := by
  induction cs with
  | nil => rfl
  | cons c cs ih =>
    rw [List.countP_cons, List.countP_cons, List.count_cons, ih]
    by_cases here : c = n
    · simp [here, new]
      omega
    · simp [here]
      omega

/-- **What has been written** of a text are characters of it in ASCII, hyphens and digits, no fewer than the characters
that have been dealt with. -/
structure Progress.Plain (text : List Char) (p : Progress) : Prop where
  chars : ∀ c ∈ p.written, (c ∈ text ∧ c.toNat < 128) ∨ c = '-' ∨ (digitValue? c).isSome = true
  size : p.handled ≤ p.written.length

namespace Progress.Plain

variable {text : List Char} {p : Progress}

theorem start (text : List Char) : (Progress.start (text.filter (·.toNat < 128))).Plain text where
  chars := by
    intro c member
    rw [Progress.start] at member
    split at member
    · cases member
    · rcases List.mem_append.1 member with basic | hyphen
      · exact .inl ⟨(List.mem_filter.1 basic).1, of_decide_eq_true (List.mem_filter.1 basic).2⟩
      · exact .inr (.inl (List.mem_singleton.1 hyphen))
  size := by
    simp only [Progress.start]
    split <;> simp_all

theorem pass (plain : p.Plain text) (basic point c : Nat) : (p.pass basic point c).Plain text ∧
    (p.pass basic point c).handled = p.handled + (if c = point then 1 else 0) := by
  rw [Progress.pass]
  split
  · exact ⟨⟨plain.chars, plain.size⟩, by rw [if_neg (by omega)]; rfl⟩
  · split
    · refine ⟨⟨fun d member => ?_, ?_⟩, rfl⟩
      · rcases List.mem_append.1 member with before | own
        · exact plain.chars d before
        · exact .inr (.inr (digitValue?_of_mem_deltaDigits own))
      · obtain ⟨digit, digits, written⟩ := exists_deltaDigits (p.delta + 1) p.delta 36 p.bias
        have size := plain.size
        simp only [write, written, List.length_append, List.length_cons]
        omega
    · exact ⟨plain, rfl⟩

theorem sweep (plain : p.Plain text) (basic point : Nat) (cs : List Nat) :
    (cs.foldl (Progress.pass basic point) p).Plain text ∧
      (cs.foldl (Progress.pass basic point) p).handled = p.handled + cs.count point := by
  induction cs generalizing p with
  | nil => exact ⟨plain, rfl⟩
  | cons c cs ih =>
    have one := plain.pass basic point c
    refine ⟨(ih one.1).1, ?_⟩
    rw [List.foldl_cons, (ih one.1).2, one.2, List.count_cons]
    simp only [beq_iff_eq]
    omega

theorem run (plain : p.Plain text) (basic : Nat) (cs : List Nat) {ps : List Nat} (distinct : ps.Nodup) :
    (ps.foldl (insert basic cs) p).Plain text ∧
      (ps.foldl (insert basic cs) p).handled = p.handled + cs.countP (· ∈ ps) := by
  induction ps generalizing p with
  | nil => exact ⟨plain, by simp⟩
  | cons point ps ih =>
    have parts := List.nodup_cons.1 distinct
    have reached : (p.reach point).Plain text := ⟨plain.chars, plain.size⟩
    have swept := reached.sweep basic point cs
    have one : (p.insert basic cs point).Plain text := ⟨swept.1.chars, swept.1.size⟩
    have count : (p.insert basic cs point).handled = p.handled + cs.count point := swept.2
    refine ⟨(ih one parts.2).1, ?_⟩
    rw [List.foldl_cons, (ih one parts.2).2, count, countP_mem_cons parts.1]
    omega

end Progress.Plain

/-- **A text is written** with its own ASCII characters, hyphens and digits, and no text is longer than what it is
written as. -/
theorem plain_of_encode? {text written : List Char} (encoded : encode? text = some written) :
    (∀ c ∈ written, (c ∈ text ∧ c.toNat < 128) ∨ c = '-' ∨ (digitValue? c).isSome = true) ∧
      text.length ≤ written.length := by
  rw [encode?] at encoded
  obtain ⟨-, encoded⟩ := Option.ite_none_right_eq_some.1 encoded
  have distinct : (points (text.map Char.toNat)).Nodup := (pairwise_points _).imp Nat.ne_of_lt
  have run := (Progress.Plain.start text).run (text.filter (·.toNat < 128)).length (text.map Char.toNat) distinct
  have others : (text.map Char.toNat).countP (· ∈ points (text.map Char.toNat)) =
      text.countP fun c => ¬c.toNat < 128 := by
    rw [List.countP_map]
    refine List.countP_congr fun c member => ?_
    have there : c.toNat ∈ text.map Char.toNat := List.mem_map_of_mem member
    rw [Function.comp_apply, decide_eq_true_iff, decide_eq_true_iff, mem_points, Nat.not_lt]
    exact and_iff_right there
  rw [← Option.some.inj encoded]
  refine ⟨run.1.chars, ?_⟩
  calc text.length
    _ = text.countP (·.toNat < 128) + text.countP fun c => ¬c.toNat < 128 := by
      simpa using List.length_eq_countP_add_countP (p := fun c : Char => decide (c.toNat < 128)) (l := text)
    _ = (text.filter (·.toNat < 128)).length + (text.map Char.toNat).countP (· ∈ points (text.map Char.toNat)) := by
      rw [others, List.countP_eq_length_filter]
    _ ≤ _ := run.2 ▸ run.1.size

/-! ### A text that is not short -/

/-- Letters between two characters outside ASCII, the first of which is far away.  That one is inserted last, and the
reader adds its number to the place behind the other one. -/
def farText (n : Nat) : List Char := Char.ofNat 0x31faa :: (List.replicate n 'a' ++ ['æ'])

/-- The number by which the near character is inserted, -/
def nearDelta (n : Nat) : Nat := 102 * (n + 1) + n

/-- and the one by which the far one is. -/
def farDelta (n : Nat) : Nat := 1 + 204483 * (n + 2)

/-- The bias in between. -/
def farBias (n : Nat) : Nat := adapt (nearDelta n) (n + 1) true

def farDigits (n : Nat) : List Char :=
  deltaDigits (nearDelta n + 2) (nearDelta n) 36 72 ++ deltaDigits (farDelta n + 2) (farDelta n) 36 (farBias n)

theorem map_farText (n : Nat) : (farText n).map Char.toNat = 204714 :: (List.replicate n 97 ++ [230]) := by
  rw [farText, List.map_cons, List.map_append, List.map_replicate]
  rfl

theorem basic_farText (n : Nat) : (farText n).filter (·.toNat < 128) = List.replicate n 'a' := by
  rw [farText, List.filter_cons_of_neg (by decide), List.filter_append, List.filter_replicate_of_pos (by decide)]
  exact List.append_nil _

theorem points_farText (n : Nat) : points (204714 :: (List.replicate n 97 ++ [230])) = [230, 204714] := by
  have others : (204714 :: (List.replicate n 97 ++ [230])).filter (128 ≤ ·) = [204714, 230] := by
    rw [List.filter_cons_of_pos (by decide), List.filter_append, List.filter_replicate_of_neg (by decide)]
    rfl
  rw [points, others]
  simp [List.mergeSort, List.MergeSort.Internal.splitInTwo]
  rfl

theorem Progress.sweep_replicate {basic point c : Nat} (less : c < point) (n : Nat) (p : Progress) :
    (List.replicate n c).foldl (Progress.pass basic point) p = { p with delta := p.delta + n } := by
  induction n generalizing p with
  | zero => rfl
  | succ n ih =>
    rw [List.replicate_succ, List.foldl_cons, ih, Progress.pass, if_pos less]
    simp only [Nat.add_right_comm, Nat.add_assoc]

theorem insert_near (n : Nat) :
    (Progress.start (List.replicate n 'a')).insert n (204714 :: (List.replicate n 97 ++ [230])) 230 =
      { next := 231, delta := 1, bias := farBias n, handled := n + 1
        written := (Progress.start (List.replicate n 'a')).written ++
          deltaDigits (nearDelta n + 2) (nearDelta n) 36 72
        fits := decide (nearDelta n ≤ limit) } := by
  simp [Progress.insert, Progress.reach, Progress.pass, Progress.sweep_replicate, Progress.write, Progress.start,
    nearDelta, farBias]
  rfl

theorem insert_far (n : Nat) (written : List Char) (fits : Bool) :
    (Progress.mk 231 1 (farBias n) (n + 1) written fits).insert n (204714 :: (List.replicate n 97 ++ [230])) 204714 =
      { next := 204715, delta := n + 2, bias := adapt (farDelta n) (n + 2) false, handled := n + 2
        written := written ++ deltaDigits (farDelta n + 2) (farDelta n) 36 (farBias n)
        fits := fits && decide (farDelta n ≤ limit) } := by
  simp [Progress.insert, Progress.reach, Progress.pass, Progress.sweep_replicate, Progress.write, farDelta,
    Nat.add_assoc]
  rfl

section Far

variable {n : Nat} (filled : 0 < n) (fits : farDelta n ≤ limit)
include filled fits

theorem farText_bounds : List.replicate n 'a' ≠ [] ∧ n + 1 ≤ limit ∧ nearDelta n ≤ limit := by
  rw [ne_eq, List.replicate_eq_nil_iff, nearDelta]
  unfold farDelta at fits
  omega

/-- **It can be written** as long as its greater number is not beyond the limit, -/
theorem encode?_farText : encode? (farText n) = some (List.replicate n 'a' ++ '-' :: farDigits n) := by
  obtain ⟨letters, -, near⟩ := farText_bounds filled fits
  have start : (Progress.start (List.replicate n 'a')).written = List.replicate n 'a' ++ ['-'] := if_neg letters
  rw [encode?, basic_farText, map_farText, points_farText, List.length_replicate, List.foldl_cons, List.foldl_cons,
    List.foldl_nil, insert_near, insert_far, start]
  simp [near, fits, farDigits]

/-- **but it is not read** where the place to which that number leads is. -/
theorem decode?_farText (beyond : limit < n + 1 + farDelta n) :
    decode? (List.replicate n 'a' ++ '-' :: farDigits n) = none := by
  obtain ⟨letters, place, near⟩ := farText_bounds filled fits
  have plain : ∀ c ∈ farDigits n, (digitValue? c).isSome = true := by
    intro c member
    rcases List.mem_append.1 member with first | second
    · exact digitValue?_of_mem_deltaDigits first
    · exact digitValue?_of_mem_deltaDigits second
  have read := decode?_digits plain (List.replicate n 'a')
  rw [if_neg letters, List.append_assoc, List.singleton_append] at read
  have size : (List.replicate n 'a').length = n := List.length_replicate
  generalize List.replicate n 'a' = front at *
  -- The near character is read; its place is what the number of the far one is added to.
  have leads : 0 + nearDelta n = ('æ'.toNat - 128) * (front.length + 1) + n := by
    rw [size, Nat.zero_add]
    rfl
  have first := Reader.takes_deltaDigits (r := ⟨72, 128, 0, front⟩) (c := 'æ') (show 72 ≤ 215 by decide)
    (show 128 ≤ 230 by decide) (Nat.le_of_eq size.symm) leads (by rwa [Nat.zero_add])
    (deltaDigits (farDelta n + 2) (farDelta n) 36 (farBias n))
  have bias : adapt (nearDelta n) (front.length + 1) true = farBias n := by rw [size, farBias]
  have fuelled : farDelta n < farDelta n + 2 := by omega
  have far : limit < n + 1 + farDelta n * 1 := by omega
  have unread : readDelta? (farBias n) (deltaDigits (farDelta n + 2) (farDelta n) 36 (farBias n) ++ []) 36 1 (n + 1) =
      none := readDelta?_beyond fuelled (Nat.le_refl 1) place far []
  obtain ⟨d, digits, written⟩ := exists_deltaDigits (farDelta n + 1) (farDelta n) 36 (farBias n)
  refine read.trans (first.trans ?_)
  change insertAll? (adapt (nearDelta n) (front.length + 1) true) 230 (n + 1) _ _ = none
  rw [List.append_nil, written] at unread
  rw [bias, written, insertAll?]
  split
  · rfl
  · rename_i some_read
    rw [unread] at some_read
    cases some_read

end Far

end BearerGate.Punycode
