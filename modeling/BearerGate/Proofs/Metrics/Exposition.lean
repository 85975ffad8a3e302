import BearerGate.Metrics.Basic
import BearerGate.Proofs.Text.Pieces

/-!
# Reading a collector's text

A collector reads the text of the metrics line by line.  A line is the name of a family, the labels of
one set in braces, each with its value in quotes, and a number.  Inside the quotes a backslash is written
`\\`, a quote `\"` and a line feed `\n`, and no other escape is allowed.  Empty lines and lines that start
with `#` are passed over.

`Reading.step` is that grammar as an automaton that takes one character at a time.  It leaves out what no
text of the metrics has: blanks other than those before the number, and a time after it.

`Reading.run_labels` says what the automaton makes of labels whose values have their quotes escaped and
nothing else, and `Written` relates lines to the samples a collector takes from them; `readPage?_of_written`
puts the lines together.
-/

namespace BearerGate.Exposition

/-- **What a collector takes from one line.** -/
structure Sample where
  name : String
  labels : List (String × String)
  value : String
  deriving DecidableEq, Repr

/-- Where in a line a reader stands: in the name of the family, in the name of a label, before the quote
that opens a value, inside the quotes, after a backslash there, after the quote that closes a value, and
in the number. -/
inductive Spot
  | name | label | opening | quoted | escaped | closed | number
  deriving DecidableEq, Repr

/-- What a reader has of a line: the labels that are complete, and the parts of the one that is not. -/
structure Reading where
  spot : Spot := .name
  name : List Char := []
  labels : List (String × String) := []
  label : List Char := []
  value : List Char := []
  deriving DecidableEq, Repr

/-- Whether a character goes on with a name: a letter, an underscore, or a digit that is not the first. -/
def goesOn (word : List Char) (c : Char) : Bool := c.isAlpha || c = '_' || (c.isDigit && !word.isEmpty)

/-- Whether a list of characters is a name. -/
def isName : List Char → Bool
  | [] => false
  | c :: cs => goesOn [] c && cs.all (goesOn [c])

namespace Reading

/-- **Takes the next character of a line.** -/
def step (r : Reading) (c : Char) : Option Reading :=
  match r.spot with
  | .name =>
    if goesOn r.name c || c = ':' then some { r with name := r.name ++ [c] }
    else if r.name = [] then none
    else if c = '\x7b' then some { r with spot := .label }
    else if c = ' ' then some { r with spot := .number }
    else none
  | .label =>
    if goesOn r.label c then some { r with label := r.label ++ [c] }
    else if c = '=' ∧ r.label ≠ [] then some { r with spot := .opening }
    else if c = '\x7d' ∧ r.label = [] then some { r with spot := .number }
    else none
  | .opening => if c = '"' then some { r with spot := .quoted } else none
  | .quoted =>
    if c = '"' then
      some { r with
        spot := .closed
        labels := r.labels ++ [(String.ofList r.label, String.ofList r.value)]
        label := []
        value := [] }
    else if c = '\\' then some { r with spot := .escaped }
    else some { r with value := r.value ++ [c] }
  | .escaped =>
    if c = '\\' ∨ c = '"' then some { r with spot := .quoted, value := r.value ++ [c] }
    else if c = 'n' then some { r with spot := .quoted, value := r.value ++ ['\n'] }
    else none
  | .closed =>
    if c = ',' then some { r with spot := .label }
    else if c = '\x7d' then some { r with spot := .number }
    else none
  | .number =>
    if c = ' ' then if r.value = [] then some r else none
    else some { r with value := r.value ++ [c] }

/-- Takes characters one after the other. -/
def run (r : Reading) (cs : List Char) : Option Reading := cs.foldlM step r

end Reading

/-- **Reads a line.** -/
def readLine? (line : String) : Option Sample := do
  let r ← Reading.run {} line.toList
  if r.spot = .number ∧ r.value ≠ [] then some ⟨String.ofList r.name, r.labels, String.ofList r.value⟩
  else none

/-- Whether a line is passed over. -/
def isSkipped (line : String) : Bool := line = "" || line.toList.head? = some '#'

/-- **Reads a whole text.**  One line that cannot be read spoils it. -/
def readPage? (text : String) : Option (List Sample) :=
  ((Text.pieces (· = '\n') text).filter fun line => !isSkipped line).mapM readLine?

/-! ### What the reader makes of labels -/

/-- A value between its quotes: only quotes are escaped. -/
def quotesEscaped (cs : List Char) : List Char := cs.flatMap fun c => if c = '"' then ['\\', '"'] else [c]

/-- A label as it is written. -/
def writtenLabel (l : String × String) : String :=
  l.1 ++ "=\"" ++ String.ofList (quotesEscaped l.2.toList) ++ "\""

/-- The labels of a line as they are written. -/
def writtenLabels (ls : List (String × String)) : String := String.intercalate "," (ls.map writtenLabel)

/-- A label that a reader takes as it is meant: its name is one, and its value has no backslash. -/
structure Legible (l : String × String) : Prop where
  name : isName l.1.toList = true
  value : '\\' ∉ l.2.toList

namespace Reading

@[simp]
theorem run_nil (r : Reading) : run r [] = some r := rfl

@[simp]
theorem run_cons (r : Reading) (c : Char) (cs : List Char) : run r (c :: cs) = (step r c).bind (run · cs) := by
  unfold run
  rw [List.foldlM_cons]
  rfl

theorem run_append (r : Reading) (cs ds : List Char) : run r (cs ++ ds) = (run r cs).bind (run · ds) := by
  unfold run
  rw [List.foldlM_append]
  rfl

/-- The characters of a name after its first one are all alike to the reader. -/
theorem goesOn_of_ne_nil {c : Char} {word : List Char} (started : word ≠ []) (d : Char) :
    goesOn word d = goesOn [c] d := by
  cases word with
  | nil => exact absurd rfl started
  | cons => rfl

/-- **Where a reader gathers a name, it takes a name as it stands.** -/
theorem run_name (gathering : List Char → Reading)
    (gathers : ∀ word c, goesOn word c = true → step (gathering word) c = some (gathering (word ++ [c])))
    {word : List Char} (named : isName word = true) : run (gathering []) word = some (gathering word) := by
  have rest : ∀ (done todo : List Char), done ≠ [] → todo.all (goesOn ['_']) = true →
      run (gathering done) todo = some (gathering (done ++ todo)) := by
    intro done todo started wordy
    induction todo generalizing done with
    | nil => simp
    | cons c cs ih =>
      rw [List.all_cons, Bool.and_eq_true] at wordy
      have first : goesOn done c = true := by rw [goesOn_of_ne_nil started]; exact wordy.1
      rw [run_cons, gathers done c first, Option.bind_some, ih (done ++ [c]) (by simp) wordy.2]
      simp
  cases word with
  | nil => exact absurd named (by decide)
  | cons c cs =>
    rw [isName, Bool.and_eq_true] at named
    rw [run_cons, gathers [] c named.1]
    exact rest [c] cs (by simp) named.2

theorem run_label {word : List Char} (named : isName word = true) (name : List Char)
    (labels : List (String × String)) :
    run { spot := .label, name, labels } word = some { spot := .label, name, labels, label := word } := by
  refine run_name (fun label => { spot := .label, name, labels, label }) (fun word c more => ?_) named
  simp only [step, more, if_true]

/-- A value without backslashes is taken as it is meant, up to the quote that closes it. -/
theorem run_quotesEscaped {cs : List Char} (clean : '\\' ∉ cs) (r : Reading) (quoted : r.spot = .quoted) :
    run r (quotesEscaped cs) = some { r with value := r.value ++ cs } := by
  induction cs generalizing r with
  | nil => simp [quotesEscaped]
  | cons c cs ih =>
    rw [List.mem_cons, not_or] at clean
    have rest := ih clean.2 { r with value := r.value ++ [c] } quoted
    rw [quotesEscaped, List.flatMap_cons, ← quotesEscaped]
    by_cases quote : c = '"'
    · subst quote
      simpa [step, quoted] using rest
    · simpa [step, quoted, quote, Ne.symm clean.1] using rest

/-- **A label is taken as it is meant.** -/
theorem run_writtenLabel {l : String × String} (legible : Legible l) (name : List Char)
    (labels : List (String × String)) :
    run { spot := .label, name, labels } (writtenLabel l).toList =
      some { spot := .closed, name, labels := labels ++ [l] } := by
  have named : l.1.toList ≠ [] := by
    intro empty
    have word := legible.name
    rw [empty] at word
    exact absurd word (by decide)
  have opened : goesOn l.1.toList '=' = false := by
    cases chars : l.1.toList with
    | nil => exact absurd chars named
    | cons => rfl
  simp only [writtenLabel, String.toList_append, String.toList_ofList, List.append_assoc]
  rw [run_append, run_label legible.name]
  simp only [Option.bind_some, String.reduceToList, List.cons_append, List.nil_append, run_cons, step, opened]
  simp only [named, ne_eq, not_false_eq_true, and_self, if_true, Bool.false_eq_true, if_false, Option.bind_some]
  rw [run_append, run_quotesEscaped legible.value _ rfl]
  simp [step]

/-- **Labels are taken as they are meant,** all of them and in their order. -/
theorem run_labels {ls : List (String × String)} (some_there : ls ≠ []) (legible : ∀ l ∈ ls, Legible l)
    (name : List Char) (labels : List (String × String)) :
    run { spot := .label, name, labels } (writtenLabels ls).toList =
      some { spot := .closed, name, labels := labels ++ ls } := by
  induction ls generalizing labels with
  | nil => exact absurd rfl some_there
  | cons l ls ih =>
    have first := run_writtenLabel (legible l List.mem_cons_self) name labels
    cases ls with
    | nil => simpa [writtenLabels] using first
    | cons l' ls =>
      have rest := ih (by simp) (fun k there => legible k (List.mem_cons_of_mem l there)) (labels ++ [l])
      simp only [writtenLabels, List.map_cons, String.intercalate_cons_cons, String.toList_append] at rest ⊢
      rw [List.append_assoc, run_append, first, Option.bind_some]
      simpa [step] using rest

/-- A number is taken as it stands. -/
theorem run_number {cs : List Char} (whole : ' ' ∉ cs) (r : Reading) (there : r.spot = .number) :
    run r cs = some { r with value := r.value ++ cs } := by
  induction cs generalizing r with
  | nil => simp
  | cons c cs ih =>
    rw [List.mem_cons, not_or] at whole
    have rest := ih whole.2 { r with value := r.value ++ [c] } there
    simpa [step, there, Ne.symm whole.1] using rest

end Reading

/-- A text of a number: at least one character, and each a letter, a digit, a point or a sign. -/
def IsNumeral (value : String) : Prop :=
  value ≠ "" ∧ ∀ c ∈ value.toList, c.isAlphanum = true ∨ c ∈ ['.', '+', '-']

/-- No other character is in the text of a number. -/
theorem IsNumeral.not_mem {value : String} (numeral : IsNumeral value) {c : Char}
    (other : c.isAlphanum = false ∧ c ∉ ['.', '+', '-']) : c ∉ value.toList := by
  intro there
  rcases numeral.2 c there with known | known
  · rw [other.1] at known
    cases known
  · exact other.2 known

/-- **A line is taken as it is meant.** -/
theorem readLine?_of_legible {family : String} (named : isName family.toList = true)
    {ls : List (String × String)} (some_there : ls ≠ []) (legible : ∀ l ∈ ls, Legible l)
    {value : String} (numeral : IsNumeral value) :
    readLine? (family ++ "\x7b" ++ writtenLabels ls ++ "\x7d " ++ value) = some ⟨family, ls, value⟩ := by
  have family_read : Reading.run {} family.toList = some { name := family.toList } := by
    refine Reading.run_name (fun name => { name }) (fun word c more => ?_) named
    simp only [Reading.step, more, Bool.true_or, if_true]
  have opened : Reading.step { name := family.toList } '\x7b' = some { spot := .label, name := family.toList } := by
    cases chars : family.toList with
    | nil =>
      rw [chars] at named
      exact absurd named (by decide)
    | cons => rfl
  have labels_read := Reading.run_labels some_there legible family.toList []
  have number_read := Reading.run_number (numeral.not_mem (by decide))
    { spot := .number, name := family.toList, labels := ls } rfl
  have chars_there : value.toList ≠ [] := by simpa using numeral.1
  have all_read : Reading.run {} (family ++ "\x7b" ++ writtenLabels ls ++ "\x7d " ++ value).toList =
      some { spot := .number, name := family.toList, labels := ls, value := value.toList } := by
    simp only [String.toList_append, List.append_assoc]
    rw [Reading.run_append, family_read, Option.bind_some, show "\x7b".toList = ['\x7b'] from rfl,
      List.singleton_append, Reading.run_cons, opened, Option.bind_some, Reading.run_append, labels_read,
      Option.bind_some]
    simpa [Reading.step] using number_read
  rw [readLine?, all_read]
  simp [chars_there]

/-! ### What the reader makes of lines -/

/-- **What is written in lines:** nothing in a line that starts with `#`, one sample in any other. -/
inductive Written : List String → List Sample → Prop
  | nil : Written [] []
  | skipped {line : String} {lines : List String} {samples : List Sample} (one : '\n' ∉ line.toList)
      (skip : line.toList.head? = some '#') (rest : Written lines samples) : Written (line :: lines) samples
  | sample {line : String} {lines : List String} {sample : Sample} {samples : List Sample}
      (one : '\n' ∉ line.toList) (starts : line.toList.head? ≠ some '#') (read : readLine? line = some sample)
      (rest : Written lines samples) : Written (line :: lines) (sample :: samples)

namespace Written

variable {lines more : List String} {samples others : List Sample}

theorem append (first : Written lines samples) (second : Written more others) :
    Written (lines ++ more) (samples ++ others) := by
  induction first with
  | nil => exact second
  | skipped one skip _ ih => exact .skipped one skip ih
  | sample one starts read _ ih => exact .sample one starts read ih

/-- Lines that start with `#` are no samples. -/
theorem comments (each : ∀ line ∈ lines, '\n' ∉ line.toList ∧ line.toList.head? = some '#') : Written lines [] := by
  induction lines with
  | nil => exact .nil
  | cons line lines ih =>
    have first := each line List.mem_cons_self
    exact .skipped first.1 first.2 (ih fun l there => each l (List.mem_cons_of_mem line there))

/-- Lines for each member of a list. -/
theorem flatMap {α : Type} {xs : List α} {line : α → List String} {sample : α → List Sample}
    (each : ∀ x ∈ xs, Written (line x) (sample x)) : Written (xs.flatMap line) (xs.flatMap sample) := by
  induction xs with
  | nil => exact .nil
  | cons x xs ih =>
    rw [List.flatMap_cons, List.flatMap_cons]
    exact (each x List.mem_cons_self).append (ih fun y there => each y (List.mem_cons_of_mem x there))

/-- No line has a line end in it. -/
theorem one_line (written : Written lines samples) : ∀ line ∈ lines, '\n' ∉ line.toList := by
  induction written with
  | nil => simp
  | skipped one _ _ ih => exact List.forall_mem_cons.2 ⟨one, ih⟩
  | sample one _ _ _ ih => exact List.forall_mem_cons.2 ⟨one, ih⟩

/-- **The samples are what a collector takes from the lines.** -/
theorem mapM_eq (written : Written lines samples) :
    (lines.filter fun line => !isSkipped line).mapM readLine? = some samples := by
  induction written with
  | nil => rfl
  | skipped _ skip _ ih =>
    rw [List.filter_cons_of_neg (by simp [isSkipped, skip])]
    exact ih
  | @sample line _ sample _ _ starts read _ ih =>
    have filled : line ≠ "" := by
      intro empty
      rw [empty] at read
      cases read
    rw [List.filter_cons_of_pos (by simp [isSkipped, starts, filled]), List.mapM_cons, read, ih]
    rfl

end Written

/-- A separator after the last part is one before an empty part. -/
theorem intercalate_concat_nil {α : Type} (separator : List α) {parts : List (List α)} (some_there : parts ≠ []) :
    separator.intercalate (parts ++ [[]]) = separator.intercalate parts ++ separator := by
  induction parts with
  | nil => exact absurd rfl some_there
  | cons part parts ih =>
    cases parts with
    | nil => simp
    | cons next parts =>
      have rest := ih (by simp)
      rw [List.cons_append, List.cons_append, List.intercalate_cons_cons, List.intercalate_cons_cons, ← List.cons_append,
        rest]
      simp only [List.append_assoc]

/-- A page is read line by line. -/
theorem readPage?_lines {lines : List String} (one_line : ∀ line ∈ lines, '\n' ∉ line.toList)
    (some_there : lines ≠ []) :
    readPage? (String.intercalate "\n" lines ++ "\n") =
      (lines.filter fun line => !isSkipped line).mapM readLine? := by
  have cut : Text.pieces (· = '\n') (String.intercalate "\n" lines ++ "\n") = lines ++ [""] := by
    rw [Text.pieces_eq_iff]
    refine ⟨by simp, ?_, ?_⟩
    · rw [String.toList_append, String.toList_intercalate, List.map_append]
      exact intercalate_concat_nil _ (by simpa using some_there)
    · intro line there
      rcases List.mem_append.1 there with line_there | last
      · exact one_line line line_there
      · rw [List.mem_singleton.1 last]
        decide
  have last : ([""].filter fun line => !isSkipped line) = [] := rfl
  rw [readPage?, cut, List.filter_append, last, List.append_nil]

/-- **A page is read as it is written.** -/
theorem readPage?_of_written {lines : List String} {samples : List Sample} (written : Written lines samples)
    (some_there : lines ≠ []) : readPage? (String.intercalate "\n" lines ++ "\n") = some samples := by
  rw [readPage?_lines written.one_line some_there, written.mapM_eq]

/-- One line that cannot be read spoils the page. -/
theorem readPage?_eq_none {lines : List String} (one_line : ∀ line ∈ lines, '\n' ∉ line.toList)
    {line : String} (there : line ∈ lines) (counts : isSkipped line = false) (unreadable : readLine? line = none) :
    readPage? (String.intercalate "\n" lines ++ "\n") = none := by
  have spoiled : ∀ ls : List String, line ∈ ls → ls.mapM readLine? = none := by
    intro ls line_there
    induction ls with
    | nil => cases line_there
    | cons l ls ih =>
      rw [List.mapM_cons]
      rcases List.mem_cons.1 line_there with rfl | later
      · rw [unreadable]
        rfl
      · rw [ih later]
        cases readLine? l <;> rfl
  rw [readPage?_lines one_line (List.ne_nil_of_mem there)]
  exact spoiled _ (List.mem_filter.2 ⟨there, by rw [counts]; rfl⟩)

/-- A line end in a line makes two lines of it. -/
theorem intercalate_cut (before after : List String) (x y : String) :
    String.intercalate "\n" (before ++ (x ++ "\n" ++ y) :: after) =
      String.intercalate "\n" (before ++ x :: y :: after) := by
  induction before with
  | nil => cases after <;> simp [String.intercalate_cons_cons, String.append_assoc]
  | cons line before ih =>
    have longer := congrArg (line ++ "\n" ++ ·) ih
    cases before with
    | nil => exact String.intercalate_cons_cons.trans (longer.trans String.intercalate_cons_cons.symm)
    | cons => exact String.intercalate_cons_cons.trans (longer.trans String.intercalate_cons_cons.symm)

end BearerGate.Exposition
