import BearerGate.Proofs.Text.Pieces
import BearerGate.Token.Validator

/-!
# The form of a token

Which texts are tokens, said without the functions that take them apart.  `Token.Written` lists what has
to hold of a text and of the token that it stands for; `Token.ofText_eq_ok_iff` says that `Token.ofText`
finds exactly those.
-/

namespace BearerGate

namespace Token

/-- A segment of a token: not empty, and without a point. -/
def IsSegment (s : String) : Prop := s ≠ "" ∧ '.' ∉ s.toList

instance : DecidablePred IsSegment := fun s => inferInstanceAs (Decidable (s ≠ "" ∧ '.' ∉ s.toList))

/-- **The segments of a text** are three texts that are segments and give the text when they are joined
by points. -/
theorem segments?_eq_some_iff {raw h p s : String} :
    segments? raw = some (h, p, s) ↔
      raw = h ++ "." ++ p ++ "." ++ s ∧ IsSegment h ∧ IsSegment p ∧ IsSegment s := by
  constructor
  · intro found
    unfold segments? at found
    split at found
    · rename_i h' p' s' cut
      split at found
      · rename_i filled
        obtain ⟨rfl, rfl, rfl⟩ : h' = h ∧ p' = p ∧ s' = s := by simpa using found
        obtain ⟨joined, hh, hp, hs⟩ := Text.pieces_eq_three_iff.1 cut
        exact ⟨joined, ⟨filled.1, hh⟩, ⟨filled.2.1, hp⟩, ⟨filled.2.2, hs⟩⟩
      · cases found
    · cases found
  · rintro ⟨joined, ⟨h_ne, hh⟩, ⟨p_ne, hp⟩, ⟨s_ne, hs⟩⟩
    have cut : Text.pieces (· = '.') raw = [h, p, s] :=
      Text.pieces_eq_three_iff.2 ⟨joined, hh, hp, hs⟩
    simp [segments?, cut, h_ne, p_ne, s_ne]

/-- **A text and the token that it stands for:** three segments, the first two of which encode JSON
objects; the header names its algorithm by a string, and the payload has a non-empty string for its
subject. -/
structure Written (raw : String) (t : Token) : Prop where
  same_text : t.raw = raw
  segments : ∃ h p s, raw = h ++ "." ++ p ++ "." ++ s ∧ IsSegment h ∧ IsSegment p ∧ IsSegment s ∧
    objectOf? h = some t.header ∧ objectOf? p = some t.payload
  algorithm : Table.get? t.header "alg" = some (.string t.algorithm)
  subject : Table.get? t.payload "sub" = some (.string t.subject)
  subject_ne : t.subject ≠ ""

/-- A look for a string finds one exactly where there is one. -/
theorem bind_string?_eq_some_iff {j : Option Json} {s : String} :
    j.bind Json.string? = some s ↔ j = some (.string s) := by
  cases j with
  | none => simp
  | some j => cases j <;> simp [Json.string?]

/-- **Taking a text apart** finds the token that it stands for, and fails where there is none. -/
theorem ofText_eq_ok_iff {raw : String} {t : Token} : ofText raw = .ok t ↔ Written raw t := by
  constructor
  · intro read
    unfold ofText at read
    split at read
    · cases read
    · rename_i h p s cut
      obtain ⟨joined, hh, hp, hs⟩ := segments?_eq_some_iff.1 cut
      split at read
      · rename_i header payload header_eq payload_eq
        split at read
        · cases read
        · rename_i algorithm algorithm_eq
          split at read
          · cases read
          · rename_i subject subject_eq
            split at read
            · cases read
            · rename_i subject_ne
              cases read
              exact
                { same_text := rfl
                  segments := ⟨h, p, s, joined, hh, hp, hs, header_eq, payload_eq⟩
                  algorithm := bind_string?_eq_some_iff.1 algorithm_eq
                  subject := bind_string?_eq_some_iff.1 subject_eq
                  subject_ne }
      · cases read
  · intro w
    obtain rfl := w.same_text
    obtain ⟨h, p, s, joined, hh, hp, hs, header_eq, payload_eq⟩ := w.segments
    have cut : segments? t.raw = some (h, p, s) :=
      segments?_eq_some_iff.2 ⟨joined, hh, hp, hs⟩
    have algorithm_eq := bind_string?_eq_some_iff.2 w.algorithm
    have subject_eq := bind_string?_eq_some_iff.2 w.subject
    simp [ofText, cut, header_eq, payload_eq, algorithm_eq, subject_eq, w.subject_ne]

/-- **The key id of a token** is what its header has under `kid`, if that is a non-empty string. -/
theorem keyId?_eq_some_iff {t : Token} {keyId : String} :
    t.keyId? = some keyId ↔ Table.get? t.header "kid" = some (.string keyId) ∧ keyId ≠ "" := by
  unfold keyId?
  cases found : (Table.get? t.header "kid").bind Json.string? with
  | none =>
    have absent : Table.get? t.header "kid" ≠ some (.string keyId) := by
      intro there
      simp [there, Json.string?] at found
    simp [absent]
  | some kid =>
    rw [bind_string?_eq_some_iff] at found
    by_cases empty : kid = ""
    · subst empty
      simp only [if_true, found, Option.some.injEq, Json.string.injEq, reduceCtorEq, false_iff]
      rintro ⟨rfl, ne⟩
      exact ne rfl
    · simp only [if_neg empty, found, Option.some.injEq, Json.string.injEq]
      constructor
      · rintro rfl
        exact ⟨rfl, empty⟩
      · rintro ⟨rfl, -⟩
        rfl

end Token

end BearerGate
