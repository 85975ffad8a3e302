import BearerGate.Http.Headers
import BearerGate.Http.Message
import BearerGate.Number.Reading
import BearerGate.Text.Units
import BearerGate.Text.Utf8

/-!
# Request bodies

Reading the body of a request by its content type: JSON is parsed, plain text is a string, and anything
else is refused.  Most methods that write something always wait for a body, unless nothing announces one;
`DELETE` and `OPTIONS` wait for one that is announced and has a type; the other methods have none.

A body has to be as long as its request says, and no longer than a limit.

A JSON body is refused if some object in it could reach behind the objects that are made from it: a
member `__proto__`, or a member `constructor` that has a member `prototype`.  The objects are looked
through level by level, and the first that is found decides.
-/

namespace BearerGate

/-- **Why a body is refused.** -/
inductive BodyFault where
  /-- No media type that is read; the text is the content type, if there is one. -/
  | unsupported (contentType : Option String)
  /-- The body is longer than the limit, or is said to be. -/
  | tooLarge
  /-- The body is not as long as it is said to be. -/
  | wrongLength
  | emptyJson
  | notJson
  | forbiddenMember
  /-- A member `constructor` that is `null`. -/
  | nullConstructor
  deriving DecidableEq, Repr

namespace BodyFault

def status : BodyFault → Nat
  | unsupported _ => 415
  | tooLarge => 413
  | _ => 400

/-- The message; that about a text that is no JSON has no fixed wording. -/
def message : BodyFault → String
  | unsupported type => "Unsupported Media Type: " ++ type.getD "undefined"
  | tooLarge => "Request body is too large"
  | wrongLength => "Request body size did not match Content-Length"
  | emptyJson => "Body cannot be empty when content-type is set to 'application/json'"
  | notJson => "<json syntax error>"
  | forbiddenMember => "Object contains forbidden prototype property"
  | nullConstructor => "Cannot convert undefined or null to object"

/-- The code that the fault has of its own. -/
def code? : BodyFault → Option String
  | unsupported _ => some "FST_ERR_CTP_INVALID_MEDIA_TYPE"
  | tooLarge => some "FST_ERR_CTP_BODY_TOO_LARGE"
  | wrongLength => some "FST_ERR_CTP_INVALID_CONTENT_LENGTH"
  | emptyJson => some "FST_ERR_CTP_EMPTY_JSON_BODY"
  | _ => none

end BodyFault

/-! ### Media types -/

def isMediaChar (c : Char) : Bool := Headers.isTokenChar c && c ≠ '\x60'

/-- A type and a subtype with a slash between them. -/
def isMediaType (cs : List Char) : Bool :=
  match Text.piecesBy (· = '/') cs with
  | [a, b] => a ≠ [] && b ≠ [] && a.all isMediaChar && b.all isMediaChar
  | _ => false

/-- Characters that may stand in a quoted parameter value, there after a backslash at least. -/
def isQuotable (c : Char) : Bool := c = '\x0b' || (' ' ≤ c && c.toNat ≤ 0xff)

/-- The rest after a quoted parameter value whose opening quote is read. -/
def afterQuoted? : List Char → Option (List Char)
  | [] => none
  | '"' :: rest => some rest
  | '\\' :: c :: rest => if isQuotable c then afterQuoted? rest else none
  | ['\\'] => none
  | c :: rest => if isQuotable c && c ≠ '\x7f' then afterQuoted? rest else none

def skipBlanks (cs : List Char) : List Char := cs.dropWhile (· = ' ')

/-- The rest after one parameter. -/
def afterParameter? (cs : List Char) : Option (List Char) :=
  match cs with
  | ';' :: cs =>
    let cs := skipBlanks cs
    let name := cs.takeWhile Headers.isTokenChar
    match name, cs.dropWhile Headers.isTokenChar with
    | _ :: _, '=' :: cs =>
      match cs with
      | '"' :: cs => (afterQuoted? cs).map skipBlanks
      | cs =>
        if cs.takeWhile Headers.isTokenChar = [] then none
        else some (skipBlanks (cs.dropWhile Headers.isTokenChar))
    | _, _ => none
  | _ => none

/-- Whether a text is a list of parameters; at most `depth` of them. -/
def areParameters : (depth : Nat) → List Char → Bool
  | _, [] => true
  | 0, _ => false
  | depth + 1, cs =>
    match afterParameter? cs with
    | some rest => areParameters depth rest
    | none => false

/-- The media type of a content type, in lower case; none if it has no proper form. -/
def mediaType? (contentType : String) : Option String :=
  let cs := contentType.toList
  let type := Text.trimChars Text.isBlank (cs.takeWhile (· ≠ ';'))
  let parameters := cs.dropWhile (· ≠ ';')
  if isMediaType type && areParameters parameters.length parameters then
    some (Text.lower (String.ofList type))
  else none

/-- How a body is read. -/
inductive BodyReader where
  | json
  | plainText
  deriving DecidableEq, Repr

/-- The reader for a content type; a media type that has a known one in it counts as that one. -/
def bodyReader? (contentType : String) : Option BodyReader :=
  (mediaType? contentType).bind fun type =>
    if mentions "application/json" type then some .json
    else if mentions "text/plain" type then some .plainText
    else none

/-! ### Forbidden members -/

/-- What is wrong with one value, its parts aside. -/
def memberFault? (j : Json) : Option BodyFault :=
  match j with
  | .object members =>
    if (Table.get? members "__proto__").isSome then some .forbiddenMember
    else
      match Table.get? members "constructor" with
      | some .null => some .nullConstructor
      | some c => if (c.member? "prototype").isSome then some .forbiddenMember else none
      | none => none
  | _ => none

/-- The values one level down. -/
def parts : Json → List Json
  | .object members => members.map (·.2)
  | .array elements => elements
  | _ => []

mutual

/-- How many levels a value has. -/
def levels : Json → Nat
  | .array elements => levelsOfList elements + 1
  | .object members => levelsOfMembers members + 1
  | _ => 1

def levelsOfList : List Json → Nat
  | [] => 0
  | j :: js => max (levels j) (levelsOfList js)

def levelsOfMembers : List (String × Json) → Nat
  | [] => 0
  | (_, j) :: ms => max (levels j) (levelsOfMembers ms)

end

/-- Looks through the values of one level, then through those of the next. -/
def levelFault? : (depth : Nat) → List Json → Option BodyFault
  | 0, _ => none
  | depth + 1, level => (level.findSome? memberFault?).or (levelFault? depth (level.flatMap parts))

/-- **The first forbidden member** of a value, level by level. -/
def forbidden? (j : Json) : Option BodyFault := levelFault? (levels j) [j]

/-! ### Reading -/

/-- Reads a JSON body. -/
def readJson (body : String) : Except BodyFault Json :=
  if body = "" then .error .emptyJson
  else
    match Json.parseChars? (Text.Utf8.dropMark body.toList) with
    | none => .error .notJson
    | some j =>
      match forbidden? j with
      | some fault => .error fault
      | none => .ok j

/-- Methods whose requests have a body unless nothing announces one. -/
def bodyMethods : List String :=
  ["POST", "PUT", "PATCH", "TRACE", "SEARCH", "PROPFIND", "PROPPATCH", "MKCOL", "COPY", "MOVE", "LOCK",
    "REPORT", "MKCALENDAR"]

/-- Methods whose requests have a body only if it is announced and has a type. -/
def optionalBodyMethods : List String := ["DELETE", "OPTIONS"]

/-- **The content type under which the body of a request is read;** none if there is no body to be read.
A body of no type has the empty one. -/
def bodyType? (r : Request) : Option String :=
  let type := r.header? "content-type"
  let length := r.header? "content-length"
  let chunked := (r.header? "transfer-encoding").isSome
  if bodyMethods.contains r.method then
    if type.isSome then type
    else if chunked || length.any (· ≠ "0") then some ""
    else none
  else if optionalBodyMethods.contains r.method then
    if chunked || length.isSome then type else none
  else none

/-- The longest body that is read, in bytes or in 16-bit units. -/
def bodyLimit : Nat := 1048576

/-- What is wrong with the length of a body, given the length that the request says. -/
def lengthFault? (announced : Option String) (body : String) : Option BodyFault :=
  let length : Number := (announced.map Number.ofText).getD .nan
  if Number.ofNat bodyLimit < length ∨ bodyLimit < Text.unitLength body then some .tooLarge
  else if length = .nan ∨ length = .ofNat body.utf8ByteSize then none
  else some .wrongLength

/-- Reads a body with a reader. -/
def BodyReader.read (reader : BodyReader) (body : String) : Except BodyFault Json :=
  match reader with
  | json => readJson body
  | plainText => .ok (.string body)

/-- **Reading the body of a request;** `null` if there is none. -/
def readBody (r : Request) : Except BodyFault Json :=
  match bodyType? r with
  | none => .ok .null
  | some type =>
    match bodyReader? type with
    | none => .error (.unsupported (if type = "" then none else some type))
    | some reader =>
      let body := r.body.getD ""
      match lengthFault? (r.header? "content-length") body with
      | some fault => .error fault
      | none => reader.read body

end BearerGate
