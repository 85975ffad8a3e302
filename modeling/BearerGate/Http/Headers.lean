import BearerGate.Table
import BearerGate.Text.Blank

/-!
# Header lists

A header list holds values under names in lower case, each name once; values that are added under a name
that is there are joined to it with a comma and a blank, those of `cookie` with a semicolon and a blank.
Only `set-cookie` may be there more than once, for its values cannot be joined.  A value loses the blanks
at its ends.  Names consist of token characters; a value has no NUL and no line end left in it and no
character above U+00FF.  Adding what does not follow these rules fails.
-/

namespace BearerGate

/-- **A header list.** -/
structure Headers where
  entries : Table String := []
  deriving DecidableEq, Repr

namespace Headers

def isTokenChar (c : Char) : Bool := c.isAlphanum || "!#$%&'*+-.^_`|~".toList.contains c

def isName (s : String) : Bool := s ≠ "" && s.toList.all isTokenChar

/-- Blanks that do not count at the ends of a value. -/
def isEdgeBlank (c : Char) : Bool := c = '\t' || c = '\n' || c = '\r' || c = ' '

/-- **A value without the blanks at its ends,** if it may be a value. -/
def value? (s : String) : Option String :=
  let cs := Text.trimChars isEdgeBlank s.toList
  if cs.all fun c => c ≠ '\x00' && c ≠ '\n' && c ≠ '\r' && c.toNat ≤ 255 then some (String.ofList cs)
  else none

/-- The value under a name, in any letter case. -/
def get? (h : Headers) (name : String) : Option String :=
  Table.get? h.entries (Text.lower name)

/-- Removes a name. -/
def delete (h : Headers) (name : String) : Headers :=
  ⟨h.entries.filter (·.1 ≠ Text.lower name)⟩

/-- Puts a value that is known to be one under a name. -/
def put (h : Headers) (name value : String) : Headers :=
  ⟨(h.delete name).entries ++ [(Text.lower name, value)]⟩

/-- **Sets the value under a name.** -/
def set? (h : Headers) (name value : String) : Option Headers :=
  if isName name then (value? value).map (h.put name) else none

/-- What stands between joined values of a name. -/
def joint (name : String) : String := if Text.lower name = "cookie" then "; " else ", "

/-- **Adds a value under a name,** joined to those that are there. -/
def append? (h : Headers) (name value : String) : Option Headers :=
  if isName name then
    (value? value).map fun v =>
      if Text.lower name = "set-cookie" then ⟨h.entries ++ [("set-cookie", v)]⟩
      else
        match h.get? name with
        | some old => h.put name (old ++ joint name ++ v)
        | none => h.put name v
  else none

/-- The list of names and values that are added one after the other. -/
def ofPairs? (pairs : List (String × String)) : Option Headers :=
  pairs.foldlM (fun h p => h.append? p.1 p.2) {}

end Headers

end BearerGate
