import BearerGate.Json.Parser
import BearerGate.Json.Printer
import BearerGate.Text.Blank

/-!
# Requests and replies

A request is what a client sent: method, target, headers and possibly a body.  A reply has a status,
headers under lower-case names, and a text.

A handler gives a **payload**, a JSON value or a text, and `Answer.reply` makes the reply from it: a
payload without content type gets one, a JSON content type without a character set gets that, and a text
under a JSON content type goes out as it is.
-/

namespace BearerGate

/-- **A request.** -/
structure Request where
  method : String := "GET"
  /-- The target as it was sent, with its query. -/
  target : String
  headers : List (String × String) := []
  body : Option String := none

/-- The value of a header; the letter case of its name does not count, and of several the last one
does. -/
def Request.header? (r : Request) (name : String) : Option String :=
  (r.headers.reverse.find? fun h => Text.lower h.1 = name).map (·.2)

/-- The value of a header that is not empty. -/
def Request.filledHeader? (r : Request) (name : String) : Option String :=
  (r.header? name).bind fun v => if v = "" then none else some v

/-- **A reply.** -/
structure Reply where
  status : Nat
  headers : List (String × String) := []
  text : String := ""
  deriving DecidableEq, Repr

/-- What a handler sends. -/
inductive Payload where
  | json (j : Json)
  | text (s : String)

/-- What a handler answers: a status, headers of its own, and a payload. -/
structure Answer where
  status : Nat := 200
  headers : List (String × String) := []
  payload : Payload

def plainTextType : String := "text/plain; charset=utf-8"

def jsonType : String := "application/json; charset=utf-8"

/-- Whether a text has another in it. -/
def mentions (word s : String) : Bool := Text.occursIn word.toList s.toList

/-- A JSON content type with a character set. -/
def withCharset (type : String) : String :=
  if mentions "charset" type then type
  else
    let trimmed := Text.trim type
    if trimmed.toList.getLast? = some ';' then trimmed ++ " charset=utf-8"
    else trimmed ++ "; charset=utf-8"

/-- **The content type of a payload,** given the one that the handler has set. -/
def contentType (given : Option String) (p : Payload) : String :=
  match given, p with
  | none, .text _ => plainTextType
  | none, .json _ => jsonType
  | some type, _ => if mentions "json" type then withCharset type else type

def Payload.toText : Payload → String
  | json j => j.render
  | text s => s

/-- The status that says that there is no content. -/
def noContent : Nat := 204

/-- The headers of an answer: those that its handler has set, and its content type.  Where there is no
content, it has no type either, unless the text would have been withheld anyway. -/
def Answer.fullHeaders (a : Answer) (withheld : Bool) : List (String × String) :=
  if a.status = noContent ∧ !withheld then a.headers.filter (·.1 ≠ "content-type")
  else Table.alter a.headers "content-type" fun given => contentType given a.payload

/-- **The reply of an answer,** whose text may be withheld. -/
def Answer.reply (a : Answer) (withheld : Bool) : Reply where
  status := a.status
  headers := a.fullHeaders withheld
  text := if withheld ∨ a.status = noContent then "" else a.payload.toText

/-! ### What may stand in a reply -/

/-- Characters that may stand in the value of a reply's header. -/
def isReplyChar (c : Char) : Bool :=
  c = '\t' || (' ' ≤ c && c ≤ '~') || (0x80 ≤ c.toNat && c.toNat ≤ 0xff)

def isReplyHeader (h : String × String) : Bool := h.2.toList.all isReplyChar

/-- The headers before the first that cannot be sent, and the name of that one. -/
def badHeader? : List (String × String) → Option (List (String × String) × String)
  | [] => none
  | h :: hs =>
    if isReplyHeader h then (badHeader? hs).map fun bad => (h :: bad.1, bad.2) else some ([], h.1)

namespace Answer

def ofJson (j : Json) : Answer := { payload := .json j }

def ofStatus (status : Nat) (j : Json) : Answer := { status, payload := .json j }

end Answer

end BearerGate
