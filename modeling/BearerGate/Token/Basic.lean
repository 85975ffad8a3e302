import BearerGate.Json.Parser
import BearerGate.Rejection
import BearerGate.Text.Base64url
import BearerGate.Text.Blank
import BearerGate.Text.Utf8

/-!
# Compact signed tokens

A token is three non-empty segments with points between them: a header, a payload and a signature, each
in base64url.  Header and payload are JSON objects.  `Token.ofText` takes a text apart and keeps it
unchanged beside what it says, for the signature is over the text as it was sent.

A text is a token exactly if it has three segments, its first two are encoded JSON objects, the header
names its algorithm by a string, and the payload has a non-empty string for its subject.
-/

namespace BearerGate

/-- **A token,** taken apart but not yet checked. -/
structure Token where
  /-- The text as it was sent. -/
  raw : String
  header : Members
  payload : Members
  /-- The algorithm that the header names. -/
  algorithm : String
  /-- The subject that the payload names. -/
  subject : String

namespace Token

/-- The three segments of a text, if it has three and none is empty. -/
def segments? (raw : String) : Option (String × String × String) :=
  match Text.pieces (· = '.') raw with
  | [h, p, s] => if h ≠ "" ∧ p ≠ "" ∧ s ≠ "" then some (h, p, s) else none
  | _ => none

/-- The members of the JSON object that a segment encodes. -/
def objectOf? (segment : String) : Option Members :=
  (Json.parseChars? (Text.Utf8.decodeText (Text.Base64url.decode segment))).bind Json.members?

/-- **Taking a token apart.** -/
def ofText (raw : String) : Except Rejection Token :=
  match segments? raw with
  | none => .error .notThreeSegments
  | some (h, p, _) =>
    match objectOf? h, objectOf? p with
    | some header, some payload =>
      match (Table.get? header "alg").bind Json.string? with
      | none => .error .noAlgorithm
      | some algorithm =>
        match (Table.get? payload "sub").bind Json.string? with
        | none => .error .noSubject
        | some subject =>
          if subject = "" then .error .noSubject
          else .ok { raw, header, payload, algorithm, subject }
    | _, _ => .error .notEncodedJson

/-- A claim of the payload. -/
def claim? (t : Token) (name : String) : Option Json := Table.get? t.payload name

/-- The key id that the header names, if it is a non-empty string. -/
def keyId? (t : Token) : Option String :=
  match (Table.get? t.header "kid").bind Json.string? with
  | some kid => if kid = "" then none else some kid
  | none => none

end Token

end BearerGate
