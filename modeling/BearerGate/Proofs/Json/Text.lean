import BearerGate.Proofs.Json.Members
import BearerGate.Proofs.Number.Text

/-!
# The text of a value reads back

A value that was read, with no number past the finite ones, is written as a text that is read as that value
again (`Json.parse?_render`).  What was read is settled: its numbers are numbers of the format, and its objects
have their members in the order in which they are built (`Json.settled_of_parse?`).
-/

namespace BearerGate

namespace Json

open Number

/-! ### Values that come from texts -/

/-- **Values as a reader gives them.** -/
inductive Settled : Json → Prop
  | null : Settled null
  | bool (b : Bool) : Settled (bool b)
  | number {n : Number} (held : n.Held) : Settled (number n)
  | string (s : String) : Settled (string s)
  | array {elements : List Json} (each : ∀ j ∈ elements, Settled j) : Settled (array elements)
  | object {members : List (String × Json)} (ordered : ofMembers members = object members)
    (each : ∀ m ∈ members, Settled m.2) : Settled (object members)

/-- An object that was read has no name twice. -/
theorem Settled.nodup_names {members : Members} (settled : (Json.object members).Settled) : members.names.Nodup := by
  cases settled with
  | object ordered each =>
    have settle_eq : Table.settle members = members := Json.object.inj ordered
    rw [← settle_eq]
    exact Table.nodup_names_settle members

/-- **Values all of whose numbers are finite.** -/
inductive AllFinite : Json → Prop
  | null : AllFinite null
  | bool (b : Bool) : AllFinite (bool b)
  | number {n : Number} (finite : n.isFinite = true) : AllFinite (number n)
  | string (s : String) : AllFinite (string s)
  | array {elements : List Json} (each : ∀ j ∈ elements, AllFinite j) : AllFinite (array elements)
  | object {members : List (String × Json)} (each : ∀ m ∈ members, AllFinite m.2) :
    AllFinite (object members)

/-- **Values as a reader gives them,** all of whose numbers are of a kind. -/
inductive Formed (kind : Number → Prop) : Json → Prop
  | null : Formed kind null
  | bool (b : Bool) : Formed kind (bool b)
  | number {n : Number} (fits : kind n) : Formed kind (number n)
  | string (s : String) : Formed kind (string s)
  | array {elements : List Json} (each : ∀ j ∈ elements, Formed kind j) : Formed kind (array elements)
  | object {members : List (String × Json)} (ordered : ofMembers members = object members)
    (each : ∀ m ∈ members, Formed kind m.2) : Formed kind (object members)

theorem settled_of_formed {j : Json} (formed : j.Formed Held) : j.Settled := by
  induction formed with
  | null => exact .null
  | bool b => exact .bool b
  | number held => exact .number held
  | string s => exact .string s
  | array _ each => exact .array each
  | object ordered _ each => exact .object ordered each

/-- What is read as a number is the number of some decimal. -/
theorem exists_decimal_of_takeUnsigned? {negative : Bool} {cs rest : List Char} {n : Number}
    (read : takeUnsigned? negative cs = some (n, rest)) :
    ∃ digits exponent, n = ofDecimal negative digits exponent := by
  unfold takeUnsigned? at read
  dsimp only at read
  split at read
  · cases read
  · split at read
    · cases read
    · split at read
      · cases read
      · cases read
        exact ⟨_, _, rfl⟩

theorem exists_decimal_of_takeNumber? {cs rest : List Char} {n : Number}
    (read : takeNumber? cs = some (n, rest)) : ∃ negative digits exponent, n = ofDecimal negative digits exponent := by
  unfold takeNumber? at read
  split at read
  · exact ⟨_, exists_decimal_of_takeUnsigned? read⟩
  · exact ⟨_, exists_decimal_of_takeUnsigned? read⟩

section Reading

variable {kind : Number → Prop}

theorem formed_of_takeWord? {word : String} {value j : Json} {cs rest : List Char} (formed : value.Formed kind)
    (read : takeWord? word value cs = some (j, rest)) : j.Formed kind := by
  unfold takeWord? at read
  dsimp only at read
  split at read
  · cases read
    exact formed
  · cases read

theorem formed_ofMembers {written : List (String × Json)} (each : ∀ m ∈ written, Formed kind m.2) :
    (ofMembers written).Formed kind :=
  .object (ofMembers_settle written) fun m member => each m (Table.mem_settle member)

/-- **Whatever is read is formed,** to any depth: a value, the elements of an array, the members of an
object. -/
theorem formed_of_take (decimals : ∀ negative digits exponent, kind (ofDecimal negative digits exponent))
    (depth : Nat) :
    (∀ {text rest : List Char} {j : Json}, takeValue? depth text = some (j, rest) → j.Formed kind) ∧
    (∀ {read : List Json} {text rest : List Char} {js : List Json}, (∀ j ∈ read, Formed kind j) →
      takeElements? depth read text = some (js, rest) → ∀ j ∈ js, Formed kind j) ∧
    (∀ {read : List (String × Json)} {text rest : List Char} {ms : List (String × Json)},
      (∀ m ∈ read, Formed kind m.2) → takeMembers? depth read text = some (ms, rest) →
      ∀ m ∈ ms, Formed kind m.2) := by
  induction depth with
  | zero =>
    refine ⟨?_, ?_, ?_⟩
    · intro text rest j taken
      cases taken
    · intro read text rest js before taken
      cases taken
    · intro read text rest ms before taken
      cases taken
  | succ depth ih =>
    obtain ⟨value, elements, members⟩ := ih
    refine ⟨?_, ?_, ?_⟩
    · intro text rest j taken
      unfold takeValue? at taken
      split at taken
      · cases taken
      · obtain ⟨p, -, same⟩ := Option.map_eq_some_iff.1 taken
        cases same
        exact .string _
      · split at taken
        · cases taken
          exact .array (by simp)
        · obtain ⟨p, read, same⟩ := Option.map_eq_some_iff.1 taken
          cases same
          exact .array (elements (by simp) read)
      · split at taken
        · cases taken
          exact .object (by simp [ofMembers, Table.putAll, Table.arrange]) (by simp)
        · obtain ⟨p, read, same⟩ := Option.map_eq_some_iff.1 taken
          cases same
          exact formed_ofMembers (members (by simp) read)
      · exact formed_of_takeWord? (.bool true) taken
      · exact formed_of_takeWord? (.bool false) taken
      · exact formed_of_takeWord? .null taken
      · obtain ⟨p, read, same⟩ := Option.map_eq_some_iff.1 taken
        cases same
        obtain ⟨negative, digits, exponent, number_eq⟩ := exists_decimal_of_takeNumber? read
        rw [number_eq]
        exact .number (decimals negative digits exponent)
    · intro read text rest js before taken
      unfold takeElements? at taken
      split at taken
      · cases taken
      · rename_i j rest' first
        have more : ∀ i ∈ j :: read, Formed kind i := by
          intro i member
          rcases List.mem_cons.1 member with rfl | old
          · exact value first
          · exact before i old
        split at taken
        · exact elements more taken
        · cases taken
          exact fun i member => more i (List.mem_reverse.1 member)
        · cases taken
    · intro read text rest ms before taken
      unfold takeMembers? at taken
      split at taken
      · split at taken
        · cases taken
        · split at taken
          · split at taken
            · cases taken
            · rename_i name _ _ _ _ _ _ j rest' first
              have more : ∀ m ∈ (name, j) :: read, Formed kind m.2 := by
                intro m member
                rcases List.mem_cons.1 member with rfl | old
                · exact value first
                · exact before m old
              split at taken
              · exact members more taken
              · cases taken
                exact fun m member => more m (List.mem_reverse.1 member)
              · cases taken
          · cases taken
      · cases taken

theorem formed_of_parseChars? (decimals : ∀ negative digits exponent, kind (ofDecimal negative digits exponent))
    {cs : List Char} {j : Json} (read : parseChars? cs = some j) : j.Formed kind := by
  unfold parseChars? at read
  split at read
  · rename_i taken
    split at read
    · cases read
      exact (formed_of_take decimals _).1 taken
    · cases read
  · cases read

end Reading

/-- **What is read is settled.** -/
theorem settled_of_parseChars? {cs : List Char} {j : Json} (read : parseChars? cs = some j) : j.Settled :=
  settled_of_formed (formed_of_parseChars? held_ofDecimal read)

/-! ### Strings -/

theorem digit?_hexDigit : ∀ n < 16, digit? 16 (hexDigit n) = some n := by decide

/-- **What a character is written as** inside a string: a letter after a backslash, four digits that
begin with two zeros, or itself. -/
theorem escapeChar_cases (c : Char) :
    (∃ letter, letter ≠ 'u' ∧ simpleEscape? letter = some c ∧ escapeChar c = ['\\', letter]) ∨
    (c.toNat < 32 ∧
      escapeChar c = ['\\', 'u', '0', '0', hexDigit (c.toNat / 16), hexDigit (c.toNat % 16)]) ∨
    (c ≠ '"' ∧ c ≠ '\\' ∧ ¬c.toNat < 32 ∧ escapeChar c = [c]) := by
  by_cases quote : c = '"'
  · exact .inl ⟨'"', by decide, by rw [quote]; decide, by rw [quote]; decide⟩
  by_cases slash : c = '\\'
  · exact .inl ⟨'\\', by decide, by rw [slash]; decide, by rw [slash]; decide⟩
  by_cases newline : c = '\n'
  · exact .inl ⟨'n', by decide, by rw [newline]; decide, by rw [newline]; decide⟩
  by_cases back : c = '\r'
  · exact .inl ⟨'r', by decide, by rw [back]; decide, by rw [back]; decide⟩
  by_cases tab : c = '\t'
  · exact .inl ⟨'t', by decide, by rw [tab]; decide, by rw [tab]; decide⟩
  by_cases erase : c = '\x08'
  · exact .inl ⟨'b', by decide, by rw [erase]; decide, by rw [erase]; decide⟩
  by_cases feed : c = '\x0c'
  · exact .inl ⟨'f', by decide, by rw [feed]; decide, by rw [feed]; decide⟩
  rw [escapeChar, if_neg quote, if_neg slash, if_neg newline, if_neg back, if_neg tab, if_neg erase,
    if_neg feed]
  by_cases control : c.toNat < 32
  · rw [if_pos control]
    exact .inr (.inl ⟨control, rfl⟩)
  · rw [if_neg control]
    exact .inr (.inr ⟨quote, slash, control, rfl⟩)

/-- **An escape of four digits** that begin with two zeros is the character with that code. -/
theorem takeEscape?_control {c : Char} (control : c.toNat < 32) (tail : List Char) :
    takeEscape? ('u' :: '0' :: '0' :: hexDigit (c.toNat / 16) :: hexDigit (c.toNat % 16) :: tail) =
      some (c, tail) := by
  have zero : digit? 16 '0' = some 0 := by decide
  have high := digit?_hexDigit (c.toNat / 16) (by omega)
  have low := digit?_hexDigit (c.toNat % 16) (by omega)
  have code : 0 * 4096 + 0 * 256 + c.toNat / 16 * 16 + c.toNat % 16 = c.toNat := by omega
  have digits : takeHexFour? ('0' :: '0' :: hexDigit (c.toNat / 16) :: hexDigit (c.toNat % 16) :: tail) =
      some (c.toNat, tail) := by
    simp only [takeHexFour?, zero, high, low, code]
  have not_high : isHighSurrogate c.toNat = false := by
    simp only [isHighSurrogate, Bool.and_eq_false_iff, decide_eq_false_iff_not]
    omega
  have not_low : isLowSurrogate c.toNat = false := by
    simp only [isLowSurrogate, Bool.and_eq_false_iff, decide_eq_false_iff_not]
    omega
  simp only [takeEscape?, digits, not_high, not_low, Char.ofNat_toNat, Bool.false_eq_true, if_false]

/-- **A character inside a string reads back.** -/
theorem takeStringTail?_escapeChar (depth : Nat) (read : List Char) (c : Char) (tail : List Char) :
    takeStringTail? (depth + 1) read (escapeChar c ++ tail) = takeStringTail? depth (c :: read) tail := by
  rcases escapeChar_cases c with ⟨letter, not_u, simple, text⟩ | ⟨control, text⟩ | ⟨not_quote, not_slash, printable, text⟩
  · have escaped : takeEscape? (letter :: tail) = some (c, tail) := by
      rw [takeEscape?, simple]
      · rfl
      · exact not_u
    simp only [text, List.cons_append, List.nil_append, takeStringTail?, escaped]
  · simp only [text, List.cons_append, List.nil_append, takeStringTail?, takeEscape?_control control]
  · rw [text, List.singleton_append, takeStringTail?, if_neg printable]
    · exact not_quote
    · exact not_slash

theorem takeStringTail?_escaped (s : List Char) (read : List Char) (rest : List Char) {depth : Nat}
    (deep : s.length < depth) :
    takeStringTail? depth read (s.flatMap escapeChar ++ '"' :: rest) =
      some (String.ofList (read.reverse ++ s), rest) := by
  induction s generalizing read depth with
  | nil =>
    obtain ⟨depth, rfl⟩ := Nat.exists_eq_succ_of_ne_zero (Nat.ne_of_gt (Nat.lt_of_le_of_lt (Nat.zero_le _) deep))
    rw [List.flatMap_nil, List.nil_append, takeStringTail?, List.append_nil]
  | cons c s ih =>
    obtain ⟨depth, rfl⟩ := Nat.exists_eq_succ_of_ne_zero (Nat.ne_of_gt (Nat.lt_of_le_of_lt (Nat.zero_le _) deep))
    rw [List.flatMap_cons, List.append_assoc, takeStringTail?_escapeChar,
      ih (c :: read) (Nat.lt_of_succ_lt_succ deep), List.reverse_cons, List.append_assoc, List.singleton_append]

theorem length_le_flatMap_escapeChar (s : List Char) : s.length ≤ (s.flatMap escapeChar).length := by
  induction s with
  | nil => exact Nat.zero_le _
  | cons c s ih =>
    have one : 1 ≤ (escapeChar c).length := by
      rcases escapeChar_cases c with ⟨letter, -, -, text⟩ | ⟨-, text⟩ | ⟨-, -, -, text⟩ <;> simp [text]
    rw [List.flatMap_cons, List.length_append, List.length_cons]
    omega

/-- **A string reads back** after its opening quote. -/
theorem takeString?_escaped (s : String) (rest : List Char) :
    takeString? (s.toList.flatMap escapeChar ++ '"' :: rest) = some (s, rest) := by
  have deep : s.toList.length < (s.toList.flatMap escapeChar ++ '"' :: rest).length + 1 := by
    have := length_le_flatMap_escapeChar s.toList
    rw [List.length_append]
    omega
  rw [takeString?, takeStringTail?_escaped _ _ _ deep, List.reverse_nil, List.nil_append, String.ofList_toList]

/-! ### Values -/

/-- Whether a character can begin the text of a value. -/
def begins (c : Char) : Bool :=
  c.isDigit || c = '-' || c = '"' || c = '[' || c = '\x7b' || c = 't' || c = 'f' || c = 'n'

theorem skipSpace_of_begins {c : Char} (start : begins c = true) (cs : List Char) :
    skipSpace (c :: cs) = c :: cs := by
  have filled : isSpace c = false := by
    refine Bool.eq_false_iff.2 fun blank => ?_
    simp only [isSpace, Bool.or_eq_true, decide_eq_true_eq] at blank
    rcases blank with ((rfl | rfl) | rfl) | rfl <;> cases start
  simp [skipSpace, filled]

/-- A text that is read as a number begins with a digit or a minus sign. -/
theorem begins_of_takeNumber? {cs : List Char} {read : Number × List Char}
    (number : takeNumber? cs = some read) :
    ∃ c tail, cs = c :: tail ∧ (c.isDigit = true ∨ c = '-') := by
  unfold takeNumber? at number
  split at number
  · exact ⟨_, _, rfl, .inr rfl⟩
  · cases cs with
    | nil => cases number
    | cons c tail =>
      by_cases digit : c.isDigit = true
      · exact ⟨c, tail, rfl, .inl digit⟩
      · have none : (c :: tail).takeWhile Char.isDigit = [] := by
          rw [List.takeWhile_cons, if_neg digit]
        simp [takeUnsigned?, none] at number

/-- **A number is read as a value.** -/
theorem takeValue?_of_takeNumber? {cs rest : List Char} {n : Number}
    (number : takeNumber? cs = some (n, rest)) (depth : Nat) :
    takeValue? (depth + 1) cs = some (.number n, rest) := by
  obtain ⟨c, tail, rfl, first⟩ := begins_of_takeNumber? number
  have start : begins c = true := by
    rcases first with digit | rfl
    · simp [begins, digit]
    · decide
  have not_other : ∀ d, d.isDigit = false → d ≠ '-' → ∀ {cs : List Char}, c :: tail ≠ d :: cs := by
    rintro d other not_minus cs same
    cases same
    rcases first with digit | minus
    · rw [other] at digit
      cases digit
    · exact not_minus minus
  rw [takeValue?, skipSpace_of_begins start]
  split
  · rename_i same
    cases same
  · rename_i same
    exact absurd same (not_other '"' (by decide) (by decide))
  · rename_i same
    exact absurd same (not_other '[' (by decide) (by decide))
  · rename_i same
    exact absurd same (not_other '\x7b' (by decide) (by decide))
  · rename_i same
    exact absurd same (not_other 't' (by decide) (by decide))
  · rename_i same
    exact absurd same (not_other 'f' (by decide) (by decide))
  · rename_i same
    exact absurd same (not_other 'n' (by decide) (by decide))
  · rw [number]
    rfl

/-- The text of a value begins as one. -/
theorem begins_renderChars {j : Json} (settled : j.Settled) (finite : j.AllFinite) :
    ∃ c cs, renderChars j = c :: cs ∧ begins c = true := by
  cases settled with
  | null => exact ⟨_, _, rfl, by decide⟩
  | bool b => cases b <;> exact ⟨_, _, rfl, by decide⟩
  | string s => exact ⟨_, _, rfl, by decide⟩
  | array each => exact ⟨_, _, rfl, by decide⟩
  | object ordered each => exact ⟨_, _, rfl, by decide⟩
  | number held =>
    cases finite with
    | number finite =>
      have read := takeNumber?_render held finite stops_nil
      rw [List.append_nil] at read
      obtain ⟨c, cs, text, first⟩ := begins_of_takeNumber? read
      refine ⟨c, cs, text, ?_⟩
      rcases first with digit | rfl
      · simp [begins, digit]
      · decide

/-! ### One step of each reader -/

theorem takeValue?_quote (depth : Nat) (cs : List Char) :
    takeValue? (depth + 1) ('"' :: cs) = (takeString? cs).map fun read => (string read.1, read.2) := rfl

/-- Behind an opening bracket, what does not close it are elements. -/
theorem takeValue?_bracket {c : Char} (start : begins c = true) (depth : Nat) (cs : List Char) :
    takeValue? (depth + 1) ('[' :: c :: cs) =
      (takeElements? depth [] (c :: cs)).map fun read => (array read.1, read.2) := by
  have opening : skipSpace ('[' :: c :: cs) = '[' :: c :: cs := rfl
  rw [takeValue?, opening]
  simp only [skipSpace_of_begins start]
  split
  · rename_i same
    cases same
    cases start
  · rfl

/-- Behind an opening brace, what does not close it are members. -/
theorem takeValue?_brace (depth : Nat) (cs : List Char) :
    takeValue? (depth + 1) ('\x7b' :: '"' :: cs) =
      (takeMembers? depth [] ('"' :: cs)).map fun read => (ofMembers read.1, read.2) := rfl

theorem takeElements?_comma {depth : Nat} {read : List Json} {text cs : List Char} {j : Json}
    (value : takeValue? depth text = some (j, ',' :: cs)) :
    takeElements? (depth + 1) read text = takeElements? depth (j :: read) cs := by
  rw [takeElements?, value]
  rfl

theorem takeElements?_close {depth : Nat} {read : List Json} {text cs : List Char} {j : Json}
    (value : takeValue? depth text = some (j, ']' :: cs)) :
    takeElements? (depth + 1) read text = some ((j :: read).reverse, cs) := by
  rw [takeElements?, value]
  rfl

theorem takeMembers?_comma {depth : Nat} {read : List (String × Json)} {name : String}
    {text tail cs : List Char} {j : Json} (named : takeString? text = some (name, ':' :: tail))
    (value : takeValue? depth tail = some (j, ',' :: cs)) :
    takeMembers? (depth + 1) read ('"' :: text) = takeMembers? depth ((name, j) :: read) cs := by
  have opening : skipSpace ('"' :: text) = '"' :: text := rfl
  have colon : skipSpace (':' :: tail) = ':' :: tail := rfl
  simp only [takeMembers?, opening, named, colon, value]
  rfl

theorem takeMembers?_close {depth : Nat} {read : List (String × Json)} {name : String}
    {text tail cs : List Char} {j : Json} (named : takeString? text = some (name, ':' :: tail))
    (value : takeValue? depth tail = some (j, '\x7d' :: cs)) :
    takeMembers? (depth + 1) read ('"' :: text) = some (((name, j) :: read).reverse, cs) := by
  have opening : skipSpace ('"' :: text) = '"' :: text := rfl
  have colon : skipSpace (':' :: tail) = ':' :: tail := rfl
  simp only [takeMembers?, opening, named, colon, value]
  rfl

/-! ### Whole values -/

theorem begins_renderElements {first : Json} (settled : first.Settled) (finite : first.AllFinite)
    (others : List Json) : ∃ c cs, renderElements (first :: others) = c :: cs ∧ begins c = true := by
  obtain ⟨c, cs, text, start⟩ := begins_renderChars settled finite
  cases others with
  | nil => exact ⟨c, cs, text, start⟩
  | cons second others => exact ⟨c, cs ++ ',' :: renderElements (second :: others), congrArg (· ++ _) text, start⟩

theorem renderElements_cons_cons (j j' : Json) (js : List Json) :
    renderElements (j :: j' :: js) = renderChars j ++ ',' :: renderElements (j' :: js) := rfl

/-- Members, with what stands after them, begin with a name in quotes and a colon. -/
theorem renderMembers_append (name : String) (j : Json) (ms : List (String × Json)) (rest : List Char) :
    renderMembers ((name, j) :: ms) ++ rest =
      '"' :: (name.toList.flatMap escapeChar ++ '"' :: ':' ::
        (renderChars j ++ ((if ms = [] then [] else ',' :: renderMembers ms) ++ rest))) := by
  cases ms with
  | nil => simp [renderMembers, renderString]
  | cons m ms => simp [renderMembers, renderString]

/-- **What reads back at a depth:** values, elements up to the closing bracket, and members up to the closing
brace. -/
structure ReadsBack (depth : Nat) : Prop where
  value : ∀ {j : Json}, j.Settled → j.AllFinite → (renderChars j).length ≤ depth →
    ∀ {rest : List Char}, Stops rest → takeValue? depth (renderChars j ++ rest) = some (j, rest)
  elements : ∀ {j : Json} {js : List Json}, (∀ i ∈ j :: js, Settled i) → (∀ i ∈ j :: js, AllFinite i) →
    (renderElements (j :: js)).length < depth → ∀ (read : List Json) (rest : List Char),
    takeElements? depth read (renderElements (j :: js) ++ ']' :: rest) = some (read.reverse ++ j :: js, rest)
  members : ∀ {name : String} {j : Json} {ms : List (String × Json)},
    (∀ m ∈ (name, j) :: ms, Settled m.2) → (∀ m ∈ (name, j) :: ms, AllFinite m.2) →
    (renderMembers ((name, j) :: ms)).length < depth → ∀ (read : List (String × Json)) (rest : List Char),
    takeMembers? depth read (renderMembers ((name, j) :: ms) ++ '\x7d' :: rest) =
      some (read.reverse ++ (name, j) :: ms, rest)

namespace ReadsBack

variable {depth : Nat}

theorem zero : ReadsBack 0 where
  value := by
    intro j settled finite short
    obtain ⟨c, cs, text, -⟩ := begins_renderChars settled finite
    rw [text] at short
    cases short
  elements := by
    intro j js settled finite short
    cases short
  members := by
    intro name j ms settled finite short
    cases short

theorem value_succ (below : ReadsBack depth) {j : Json} (settled : j.Settled) (finite : j.AllFinite)
    (short : (renderChars j).length ≤ depth + 1) {rest : List Char} (stops : Stops rest) :
    takeValue? (depth + 1) (renderChars j ++ rest) = some (j, rest) := by
  cases settled with
  | null => rfl
  | bool b => cases b <;> rfl
  | number held =>
    cases finite with
    | number finite => exact takeValue?_of_takeNumber? (takeNumber?_render held finite stops) depth
  | string s =>
    have text : renderChars (string s) ++ rest = '"' :: (s.toList.flatMap escapeChar ++ '"' :: rest) := by
      simp [renderChars, renderString]
    rw [text, takeValue?_quote, takeString?_escaped]
    rfl
  | @array elements each =>
    cases finite with
    | array finite =>
      cases elements with
      | nil => rfl
      | cons first others =>
        have inside : (renderElements (first :: others)).length < depth := by
          simp only [renderChars, List.length_cons, List.length_append, List.length_nil] at short
          omega
        have back := below.elements each finite inside [] rest
        obtain ⟨c, cs, start, begin⟩ := begins_renderElements (each first List.mem_cons_self)
          (finite first List.mem_cons_self) others
        have text : renderChars (array (first :: others)) ++ rest =
            '[' :: (renderElements (first :: others) ++ ']' :: rest) := by
          simp [renderChars]
        rw [text]
        rw [start, List.cons_append] at back ⊢
        rw [takeValue?_bracket begin, back]
        rfl
  | @object members ordered each =>
    cases finite with
    | object finite =>
      cases members with
      | nil => rfl
      | cons first others =>
        obtain ⟨name, j⟩ := first
        have inside : (renderMembers ((name, j) :: others)).length < depth := by
          simp only [renderChars, List.length_cons, List.length_append, List.length_nil] at short
          omega
        have back := below.members each finite inside [] rest
        have text : renderChars (object ((name, j) :: others)) ++ rest =
            '\x7b' :: (renderMembers ((name, j) :: others) ++ '\x7d' :: rest) := by
          simp [renderChars]
        rw [text]
        rw [renderMembers_append] at back ⊢
        rw [takeValue?_brace, back]
        exact congrArg (fun j => some (j, rest)) ordered

theorem elements_succ (below : ReadsBack depth) {j : Json} {js : List Json} (settled : ∀ i ∈ j :: js, Settled i)
    (finite : ∀ i ∈ j :: js, AllFinite i) (short : (renderElements (j :: js)).length < depth + 1)
    (read : List Json) (rest : List Char) :
    takeElements? (depth + 1) read (renderElements (j :: js) ++ ']' :: rest) =
      some (read.reverse ++ j :: js, rest) := by
  have first := below.value (settled j List.mem_cons_self) (finite j List.mem_cons_self)
  cases js with
  | nil =>
    rw [renderElements] at short ⊢
    rw [takeElements?_close (first (Nat.le_of_lt_succ short) (stops_cons (by decide) _)), List.reverse_cons]
  | cons j' js =>
    rw [renderElements_cons_cons, List.length_append, List.length_cons] at short
    have others := below.elements (fun i member => settled i (List.mem_cons_of_mem _ member))
      (fun i member => finite i (List.mem_cons_of_mem _ member)) (by omega) (j :: read) rest
    rw [renderElements_cons_cons, List.append_assoc, List.cons_append,
      takeElements?_comma (first (by omega) (stops_cons (by decide) _)), others, List.reverse_cons,
      List.append_assoc]
    rfl

theorem members_succ (below : ReadsBack depth) {name : String} {j : Json} {ms : List (String × Json)}
    (settled : ∀ m ∈ (name, j) :: ms, Settled m.2) (finite : ∀ m ∈ (name, j) :: ms, AllFinite m.2)
    (short : (renderMembers ((name, j) :: ms)).length < depth + 1) (read : List (String × Json))
    (rest : List Char) :
    takeMembers? (depth + 1) read (renderMembers ((name, j) :: ms) ++ '\x7d' :: rest) =
      some (read.reverse ++ (name, j) :: ms, rest) := by
  have first := below.value (settled _ List.mem_cons_self) (finite _ List.mem_cons_self)
  dsimp only at first
  have length := congrArg List.length (renderMembers_append name j ms [])
  simp only [List.append_nil, List.length_cons, List.length_append] at length
  cases ms with
  | nil =>
    rw [renderMembers_append, if_pos rfl, List.nil_append,
      takeMembers?_close (takeString?_escaped _ _) (first (by omega) (stops_cons (by decide) _)),
      List.reverse_cons]
  | cons m ms =>
    obtain ⟨name', j'⟩ := m
    rw [if_neg (List.cons_ne_nil _ _), List.length_cons] at length
    have others := below.members (fun i member => settled i (List.mem_cons_of_mem _ member))
      (fun i member => finite i (List.mem_cons_of_mem _ member)) (by omega) ((name, j) :: read) rest
    rw [renderMembers_append, if_neg (List.cons_ne_nil _ _), List.cons_append,
      takeMembers?_comma (takeString?_escaped _ _) (first (by omega) (stops_cons (by decide) _)), others,
      List.reverse_cons, List.append_assoc]
    rfl

end ReadsBack

/-- **At every depth everything reads back** that is not longer than it. -/
theorem readsBack (depth : Nat) : ReadsBack depth := by
  induction depth with
  | zero => exact .zero
  | succ depth below => exact ⟨below.value_succ, below.elements_succ, below.members_succ⟩

/-- **The text of a value reads back.** -/
theorem parse?_render {j : Json} (settled : j.Settled) (finite : j.AllFinite) : parse? (render j) = some j := by
  have back := (readsBack ((renderChars j).length + 1)).value settled finite (Nat.le_succ _) stops_nil
  rw [List.append_nil] at back
  have nothing : skipSpace [] = [] := rfl
  rw [parse?, render, String.toList_ofList, parseChars?, back]
  exact if_pos nothing

/-- **What was read is written as a text that is read the same,** if its numbers are finite. -/
theorem parse?_render_of_parseChars? {cs : List Char} {j : Json} (read : parseChars? cs = some j)
    (finite : j.AllFinite) : parse? (render j) = some j :=
  parse?_render (settled_of_parseChars? read) finite

end Json

end BearerGate
