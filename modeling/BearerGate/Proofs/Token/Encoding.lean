import BearerGate.Proofs.Text.Base64url
import BearerGate.Proofs.Token.Form

/-!
# Writing a token and taking it apart

A text is either a token or it is malformed, and which of the two is told by its form alone (`ofText_exact`).  And
whoever writes the texts of two JSON objects in base64url, in whatever standard way, and puts a signature behind
them, gets a token that says just what the two texts say: the bytes are read back (`decode_written`), the bytes
of a text are that text (`decode_encode`), and a JSON text does not begin with a byte order mark, so none is taken
away from it (`decodeText_encode`).
-/

namespace BearerGate

/-! ### JSON texts as documents -/

/-- No JSON text begins with a byte order mark. -/
theorem Json.parseChars?_mark (cs : List Char) : Json.parseChars? ('\ufeff' :: cs) = none := by
  have first : Json.skipSpace ('\ufeff' :: cs) = '\ufeff' :: cs := by
    rw [Json.skipSpace, List.dropWhile_cons_of_neg (by decide)]
  have unread : Json.takeNumber? ('\ufeff' :: cs) = none := by
    rw [Json.takeNumber?, Json.takeUnsigned?, List.takeWhile_cons_of_neg (by decide)]
    · rfl
    · simp
  rw [Json.parseChars?, Json.takeValue?, first]
  simp [unread]

/-- **A JSON text is read back from its bytes,** as the text of a document. -/
theorem decodeText_encode {text : String} {j : Json} (read : Json.parse? text = some j) :
    Text.Utf8.decodeText (Text.Utf8.encode text) = text.toList := by
  have back : Text.Utf8.decode (Text.Utf8.encode text) = text.toList := by
    rw [← String.ofList_toList (s := text), Text.Utf8.decode_encode, String.toList_ofList]
  rw [Text.Utf8.decodeText, back]
  unfold Text.Utf8.dropMark
  split
  · rename_i cs marked
    rw [Json.parse?, marked, Json.parseChars?_mark] at read
    cases read
  · rfl

theorem encode_ne_nil {text : String} {j : Json} (read : Json.parse? text = some j) : Text.Utf8.encode text ≠ [] := by
  intro empty
  have chars := decodeText_encode read
  rw [empty] at chars
  rw [Json.parse?, ← chars] at read
  cases read

namespace Token

/-! ### Segments -/

section Segments

variable {text : String} {members : Members} (alphabet : Text.Base64url.Alphabet) (padded : Bool)

/-- A JSON text in base64url is a segment. -/
theorem isSegment_written (read : Json.parse? text = some (.object members)) :
    IsSegment (Text.Base64url.written alphabet padded (Text.Utf8.encode text)) :=
  ⟨Text.Base64url.written_ne_empty alphabet padded (encode_ne_nil read),
    Text.Base64url.not_mem_written alphabet padded _⟩

/-- **The object of a segment** that was written from the text of one. -/
theorem objectOf?_written (read : Json.parse? text = some (.object members)) :
    objectOf? (Text.Base64url.written alphabet padded (Text.Utf8.encode text)) = some members := by
  rw [objectOf?, Text.Base64url.decode_written, decodeText_encode read]
  rw [Json.parse?] at read
  rw [read]
  rfl

end Segments

/-! ### Tokens -/

/-- **Every failure to take a text apart** means that the text is malformed. -/
theorem reason_of_ofText {raw : String} {cause : Rejection} (failed : ofText raw = .error cause) :
    cause.reason = .malformed := by
  unfold ofText at failed
  split at failed
  · cases failed
    rfl
  · split at failed
    · split at failed
      · cases failed
        rfl
      · split at failed
        · cases failed
          rfl
        · split at failed
          · cases failed
            rfl
          · cases failed
    · cases failed
      rfl

/-- **Taking a text apart is exact:** it finds the token that the text stands for, and where there is none it
fails, since the text is malformed.  And it undoes every standard way to write a token. -/
theorem ofText_exact :
    (∀ raw : String, (∃ t, ofText raw = .ok t ∧ Written raw t) ∨
      (∀ t, ¬Written raw t) ∧ ∃ cause, ofText raw = .error cause ∧ cause.reason = .malformed) ∧
    ∀ (headerText payloadText signature algorithm subject : String) (header payload : Members),
      Json.parse? headerText = some (.object header) → Json.parse? payloadText = some (.object payload) →
      Table.get? header "alg" = some (.string algorithm) → Table.get? payload "sub" = some (.string subject) →
      subject ≠ "" → IsSegment signature →
      ∀ (alphabet alphabet' : Text.Base64url.Alphabet) (padded padded' : Bool) (raw : String),
        raw = Text.Base64url.written alphabet padded (Text.Utf8.encode headerText) ++ "." ++
          Text.Base64url.written alphabet' padded' (Text.Utf8.encode payloadText) ++ "." ++ signature →
        ofText raw = .ok { raw, header, payload, algorithm, subject } := by
  refine ⟨fun raw => ?_, ?_⟩
  · cases read : ofText raw with
    | ok t => exact .inl ⟨t, rfl, ofText_eq_ok_iff.1 read⟩
    | error cause =>
      refine .inr ⟨fun t written => ?_, cause, rfl, reason_of_ofText read⟩
      rw [ofText_eq_ok_iff.2 written] at read
      cases read
  · intro headerText payloadText signature algorithm subject header payload header_read payload_read
      algorithm_there subject_there subject_ne segment alphabet alphabet' padded padded' raw joined
    exact ofText_eq_ok_iff.2
      { same_text := rfl
        segments := ⟨_, _, signature, joined, isSegment_written alphabet padded header_read,
          isSegment_written alphabet' padded' payload_read, segment, objectOf?_written alphabet padded header_read,
          objectOf?_written alphabet' padded' payload_read⟩
        algorithm := algorithm_there
        subject := subject_there
        subject_ne }

/-- A header in one alphabet and without padding, a payload in the other and with padding. -/
theorem ofText_exact_mixed : ofText "eyJhbGciOiJSUzI1NiJ9.eyJzdWIiOiJ+In0=.x" =
    .ok
      { raw := "eyJhbGciOiJSUzI1NiJ9.eyJzdWIiOiJ+In0=.x"
        header := [("alg", .string "RS256")]
        payload := [("sub", .string "~")]
        algorithm := "RS256"
        subject := "~" } := by
  refine ofText_exact.2 "\x7b\"alg\":\"RS256\"\x7d" "\x7b\"sub\":\"~\"\x7d" "x" "RS256" "~" _ _ ?_ ?_ rfl rfl
    (by decide) (by decide) .web .plain false true _ ?_
  · cbv
  · cbv
  · decide +kernel

end Token

end BearerGate
