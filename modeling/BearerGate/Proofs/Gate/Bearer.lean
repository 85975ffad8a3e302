import BearerGate.Gate.Bearer

/-!
# The token in a header, and a header for a token

Which texts can be the token of a header: they are not empty, have no line end in them, and begin with a
blank only if they are that blank and nothing else.  Those are exactly the texts that come out again when
they are written after `Bearer` and one blank, so reading a header that was written in this way undoes the
writing.
-/

namespace BearerGate

/-- **The tokens of headers.**  A token that begins with a blank is that blank: all blanks before a token
are skipped, as long as something is left. -/
structure IsBearerToken (t : List Char) : Prop where
  ne_nil : t ≠ []
  no_line_end : ∀ c ∈ t, Text.isLineEnd c = false
  start : (∃ c, t = [c]) ∨ ∀ c ∈ t.head?, Text.isBlank c = false

/-- The header that carries a token. -/
def bearerHeader (t : String) : String := "Bearer " ++ t

theorem toList_bearerHeader (t : String) :
    (bearerHeader t).toList = "Bearer".toList ++ ' ' :: t.toList := by
  simp [bearerHeader]

/-- What stands after the scheme of a header is the end of it. -/
theorem suffix_of_afterScheme?_eq_some {cs rest : List Char} (h : afterScheme? cs = some rest) :
    rest <:+ cs := by
  unfold afterScheme? at h
  split at h
  · cases h
    exact List.drop_suffix 6 cs
  · cases h

/-- The part of a list after its leading members of a class does not begin with one. -/
private theorem head?_dropWhile_false {p : Char → Bool} {cs : List Char} :
    ∀ c ∈ (cs.dropWhile p).head?, p c = false := by
  intro c head
  have hd := List.head?_dropWhile_not p cs
  rw [Option.mem_def] at head
  simpa [head] using hd

/-- **What is found in a header** is a token, and the end of the header. -/
theorem bearerToken?_eq_some {header : Option String} {t : String}
    (found : bearerToken? header = some t) :
    IsBearerToken t.toList ∧ ∃ h, header = some h ∧ t.toList <:+ h.toList := by
  cases header with
  | none =>
    simp [bearerToken?, afterScheme?] at found
  | some h =>
    unfold bearerToken? at found
    simp only [Option.getD_some] at found
    split at found
    · cases found
    · rename_i cs scheme
      have in_header := suffix_of_afterScheme?_eq_some scheme
      split at found
      · cases found
      split at found
      · rename_i rest_ne
        split at found
        · cases found
        · rename_i no_line_end
          obtain rfl : String.ofList (cs.dropWhile Text.isBlank) = t := by simpa using found
          rw [String.toList_ofList]
          refine ⟨⟨rest_ne, ?_, .inr head?_dropWhile_false⟩, h, rfl, ?_⟩
          · simpa using no_line_end
          · exact (List.dropWhile_suffix _).trans in_header
      · rename_i all_blank
        -- Nothing but blanks follows the scheme: the last of them is given back.
        have all : cs.takeWhile Text.isBlank = cs := by
          have parts := List.takeWhile_append_dropWhile (p := Text.isBlank) (l := cs)
          rw [Decidable.not_not.1 all_blank, List.append_nil] at parts
          exact parts
        rw [all] at found
        split at found
        · rename_i last before others reversed
          split at found
          · cases found
          · rename_i no_line_end
            obtain rfl : String.ofList [last] = t := by simpa using found
            have cs_eq : cs = (before :: others).reverse ++ [last] := by
              rw [← List.reverse_inj, reversed]
              simp
            rw [String.toList_ofList]
            refine ⟨⟨by simp, by simpa using no_line_end, .inl ⟨last, rfl⟩⟩, h, rfl, ?_⟩
            exact List.IsSuffix.trans ⟨_, cs_eq.symm⟩ in_header
        · cases found

/-- **Reading undoes writing:** a token comes out of the header that carries it. -/
theorem bearerToken?_bearerHeader {t : String} (token : IsBearerToken t.toList) :
    bearerToken? (some (bearerHeader t)) = some t := by
  have scheme : afterScheme? (bearerHeader t).toList = some (' ' :: t.toList) := by
    rw [toList_bearerHeader]
    simp [afterScheme?]
  have blank : Text.isBlank ' ' = true := by decide
  unfold bearerToken?
  simp only [Option.getD_some, scheme, List.takeWhile_cons, List.dropWhile_cons, blank, if_true]
  cases chars : t.toList with
  | nil => exact absurd chars token.ne_nil
  | cons c cs =>
    have text : String.ofList (c :: cs) = t := by rw [← chars, String.ofList_toList]
    by_cases blank_start : Text.isBlank c = true
    · -- The token is one blank, which is what is left after the blank that separates it.
      have one : c :: cs = [c] := by
        rcases token.start with ⟨d, single⟩ | head
        · rw [chars] at single
          cases single
          rfl
        · rw [chars] at head
          have := head c rfl
          rw [blank_start] at this
          cases this
      cases one
      have no_line_end := token.no_line_end c (by simp [chars])
      simp [blank_start, no_line_end, text]
    · have no_line_end : (c :: cs).any Text.isLineEnd = false := by
        rw [← chars]
        simpa using token.no_line_end
      rw [List.takeWhile_cons, List.dropWhile_cons, if_neg blank_start, if_neg blank_start]
      simp only [no_line_end, text]
      simp

end BearerGate
