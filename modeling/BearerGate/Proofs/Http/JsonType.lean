import BearerGate.Http.Message

/-!
# JSON content types

A content type that names JSON, in whatever letter case, still does so when a reply has given it a character
set, and can be sent if it could be sent before.
-/

namespace BearerGate

/-! ### Words in texts -/

namespace Text

/-- Whether a list occurs in another is whether it is an infix of it. -/
theorem occursIn_iff {needle cs : List Char} : occursIn needle cs = true ↔ needle <:+: cs := by
  induction cs with
  | nil =>
    rw [occursIn, List.isEmpty_iff, List.infix_nil]
  | cons c cs ih =>
    rw [occursIn, Bool.or_eq_true, List.isPrefixOf_iff_prefix, ih, List.infix_cons_iff]

/-- A word that begins with no character of a class is not touched where such characters are dropped. -/
theorem infix_dropWhile {p : Char → Bool} {needle cs : List Char} (filled : needle ≠ [])
    (first : ∀ c ∈ needle.head?, p c = false) (inside : needle <:+: cs) : needle <:+: cs.dropWhile p := by
  induction cs with
  | nil => exact inside
  | cons c cs ih =>
    rw [List.dropWhile_cons]
    split
    · rename_i dropped
      rcases List.infix_cons_iff.1 inside with start | later
      · obtain ⟨d, ds, rfl⟩ := List.exists_cons_of_ne_nil filled
        have same : d = c := (List.cons_prefix_cons.1 start).1
        rw [same] at first
        rw [first c rfl] at dropped
        cases dropped
      · exact ih later
    · exact inside

/-- **Trimming touches no word** that has no character of the class at its ends. -/
theorem infix_trimChars {p : Char → Bool} {needle cs : List Char} (filled : needle ≠ [])
    (first : ∀ c ∈ needle.head?, p c = false) (last : ∀ c ∈ needle.getLast?, p c = false)
    (inside : needle <:+: cs) : needle <:+: trimChars p cs := by
  have front := infix_dropWhile filled first inside
  have turned : needle.reverse <:+: (cs.dropWhile p).reverse.dropWhile p := by
    refine infix_dropWhile (by simpa using filled) ?_ (List.reverse_infix.2 front)
    rw [List.head?_reverse]
    exact last
  have back := List.reverse_infix.2 turned
  rwa [List.reverse_reverse] at back

theorem mem_of_mem_trimChars {p : Char → Bool} {cs : List Char} {c : Char} (member : c ∈ trimChars p cs) :
    c ∈ cs := by
  have inner := List.mem_reverse.1 member
  have outer := List.mem_reverse.1 ((List.dropWhile_sublist p).subset inner)
  exact (List.dropWhile_sublist p).subset outer

end Text

/-! ### JSON content types -/

/-- **A JSON content type,** in any letter case. -/
def isJsonType (type : String) : Bool := mentions "json" (Text.lower type)

theorem mentions_iff {word s : String} : mentions word s = true ↔ word.toList <:+: s.toList := Text.occursIn_iff

theorem isJsonType_of_mentions {type : String} (json : mentions "json" type = true) :
    isJsonType type = true := by
  have lowered := (mentions_iff.1 json).map Char.toLower
  have word : "json".toList.map Char.toLower = "json".toList := by decide
  have text : (Text.lower type).toList = type.toList.map Char.toLower := String.toList_ofList
  rw [word, ← text] at lowered
  exact mentions_iff.2 lowered

/-- A character set does not make a JSON content type another. -/
theorem mentions_withCharset {type : String} (json : mentions "json" type = true) :
    mentions "json" (withCharset type) = true := by
  have trimmed : "json".toList <:+: (Text.trim type).toList := by
    have first : ∀ c ∈ "json".toList.head?, Text.isBlank c = false := by
      intro c first
      obtain rfl : 'j' = c := by simpa using first
      decide
    have last : ∀ c ∈ "json".toList.getLast?, Text.isBlank c = false := by
      intro c last
      obtain rfl : 'n' = c := by simpa using last
      decide
    have text : (Text.trim type).toList = Text.trimChars Text.isBlank type.toList := String.toList_ofList
    rw [text]
    exact Text.infix_trimChars (by decide) first last (mentions_iff.1 json)
  have longer : ∀ more, mentions "json" (Text.trim type ++ more) = true := by
    intro more
    rw [mentions_iff, String.toList_append]
    exact trimmed.trans (List.prefix_append _ _).isInfix
  rw [withCharset]
  split
  · exact json
  · dsimp only
    split
    · exact longer _
    · exact longer _

theorem isJsonType_contentType {type : String} (json : isJsonType type = true) (p : Payload) :
    isJsonType (contentType (some type) p) = true := by
  have either : contentType (some type) p = if mentions "json" type then withCharset type else type := rfl
  rw [either]
  split
  · rename_i spelled
    exact isJsonType_of_mentions (mentions_withCharset spelled)
  · exact json

theorem isReplyHeader_contentType {name type : String} (fine : isReplyHeader (name, type) = true) (p : Payload) :
    isReplyHeader (name, contentType (some type) p) = true := by
  have trimmed : (Text.trim type).toList.all isReplyChar = true := by
    rw [Text.trim, String.toList_ofList]
    exact List.all_eq_true.2 fun c member => List.all_eq_true.1 fine c (Text.mem_of_mem_trimChars member)
  have longer : ∀ more : String, more.toList.all isReplyChar = true →
      isReplyHeader (name, Text.trim type ++ more) = true := by
    intro more sendable
    rw [isReplyHeader, String.toList_append, List.all_append, trimmed, sendable]
    rfl
  have either : contentType (some type) p = if mentions "json" type then withCharset type else type := rfl
  rw [either]
  split
  · rw [withCharset]
    split
    · exact fine
    · dsimp only
      split
      · exact longer _ (by decide)
      · exact longer _ (by decide)
  · exact fine

end BearerGate
