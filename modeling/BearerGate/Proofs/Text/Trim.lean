import BearerGate.Text.Blank
import Mathlib.Data.List.TakeWhile

/-!
# Trimming

Trimming takes characters of a class from both ends of a text.  It takes nothing where there is nothing to take
(`trimChars_eq_self`), and what it leaves has no blank at either end (`trimmed_trim`), so it takes nothing a second
time (`trim_trim`).  Blanks around a text are all that it takes: `exists_padding` puts them back, and further ones
make no difference (`trim_append_left`, `trim_append_right`).
-/

namespace BearerGate.Text

/-- **Trimming takes nothing** from a list whose ends are not of the class. -/
theorem trimChars_eq_self {p : Char → Bool} {cs : List Char} (first : ∀ c ∈ cs.head?, p c = false)
    (last : ∀ c ∈ cs.getLast?, p c = false) : trimChars p cs = cs := by
  have keeps_start : ∀ {ds : List Char}, (∀ c ∈ ds.head?, p c = false) → ds.dropWhile p = ds := by
    intro ds head
    cases ds with
    | nil => rfl
    | cons d ds => simp [head d rfl]
  unfold trimChars
  rw [keeps_start first, keeps_start, List.reverse_reverse]
  rw [List.head?_reverse]
  exact last

/-! ### What is left -/

/-- **A text with nothing to trim:** it has no blank at either end. -/
structure Trimmed (s : String) : Prop where
  first : ∀ c ∈ s.toList.head?, isBlank c = false
  last : ∀ c ∈ s.toList.getLast?, isBlank c = false

theorem Trimmed.trim_eq {s : String} (trimmed : Trimmed s) : trim s = s := by
  rw [trim, trimChars_eq_self trimmed.first trimmed.last, String.ofList_toList]

theorem toList_trim (s : String) : (trim s).toList = trimChars isBlank s.toList := String.toList_ofList

/-- **Trimming leaves nothing to trim.** -/
theorem trimmed_trim (s : String) : Trimmed (trim s) := by
  have ends : ∀ {cs : List Char} {c : Char}, (cs.dropWhile isBlank).head? = some c → isBlank c = false := by
    intro cs c first
    simpa [first] using List.head?_dropWhile_not isBlank cs
  constructor
  · intro c first
    -- What is first after both ends are trimmed was first after the start was.
    rw [toList_trim, trimChars, List.head?_reverse] at first
    obtain ⟨front, whole⟩ := List.dropWhile_suffix isBlank (l := (s.toList.dropWhile isBlank).reverse)
    have last : (s.toList.dropWhile isBlank).reverse.getLast? = some c := by
      rw [← whole, List.getLast?_append, first]
      rfl
    rw [List.getLast?_reverse] at last
    exact ends last
  · intro c last
    rw [toList_trim, trimChars, List.getLast?_reverse] at last
    exact ends last

/-- **Trimming twice trims no more.** -/
theorem trim_trim (s : String) : trim (trim s) = trim s := (trimmed_trim s).trim_eq

/-! ### What is taken -/

/-- **What trimming takes are blanks** around what it leaves. -/
theorem exists_padding (s : String) : ∃ front back : List Char, (∀ c ∈ front, isBlank c = true) ∧
    (∀ c ∈ back, isBlank c = true) ∧ s.toList = front ++ ((trim s).toList ++ back) := by
  refine ⟨s.toList.takeWhile isBlank, ((s.toList.dropWhile isBlank).reverse.takeWhile isBlank).reverse, ?_, ?_, ?_⟩
  · exact fun c member => List.mem_takeWhile_imp member
  · exact fun c member => List.mem_takeWhile_imp (List.mem_reverse.1 member)
  · rw [toList_trim, trimChars, ← List.reverse_append, List.takeWhile_append_dropWhile, List.reverse_reverse,
      List.takeWhile_append_dropWhile]

/-- **Further blanks before a text** are taken too, -/
theorem trim_append_left {front : List Char} (blank : ∀ c ∈ front, isBlank c = true) (cs : List Char) :
    trim (String.ofList (front ++ cs)) = trim (String.ofList cs) := by
  rw [trim, trim, String.toList_ofList, String.toList_ofList, trimChars, List.dropWhile_append_of_pos blank, trimChars]

/-- and so are those after it. -/
theorem trim_append_right {back : List Char} (blank : ∀ c ∈ back, isBlank c = true) (cs : List Char) :
    trim (String.ofList (cs ++ back)) = trim (String.ofList cs) := by
  have turned : ∀ c ∈ back.reverse, isBlank c = true := fun c member => blank c (List.mem_reverse.1 member)
  rw [trim, trim, String.toList_ofList, String.toList_ofList, trimChars, List.dropWhile_append]
  split
  · -- Nothing but blanks is there.
    rename_i nothing
    rw [List.dropWhile_eq_nil_iff.2 blank, trimChars, List.isEmpty_iff.1 nothing]
  · rw [List.reverse_append, List.dropWhile_append_of_pos turned, trimChars]

end BearerGate.Text
