import BearerGate.Text.Blank

/-!
# The bearer token of a header

An `Authorization` header carries a token after the word `Bearer`, in any letter case, and at least one
blank.  All blanks after the word are skipped, except that one blank alone may be a token if nothing
else follows.  A token has no line end in it.
-/

namespace BearerGate

/-- The rest of a text after the word `Bearer`, in any letter case. -/
def afterScheme? (cs : List Char) : Option (List Char) :=
  if (cs.take 6).map Char.toLower = "bearer".toList then some (cs.drop 6) else none

/-- **The token of a header value.** -/
def bearerToken? (header : Option String) : Option String :=
  match afterScheme? (header.getD "").toList with
  | none => none
  | some cs =>
    let blanks := cs.takeWhile Text.isBlank
    let rest := cs.dropWhile Text.isBlank
    if blanks = [] then none
    else if rest ≠ [] then
      if rest.any Text.isLineEnd then none else some (String.ofList rest)
    else
      match blanks.reverse with
      | last :: _ :: _ => if Text.isLineEnd last then none else some (String.ofList [last])
      | _ => none

end BearerGate
