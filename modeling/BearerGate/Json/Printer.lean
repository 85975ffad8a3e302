import BearerGate.Json.Basic

/-!
# JSON text of values

`Json.render` writes a value without blanks.  Inside a string the quote, the backslash and the control
characters are escaped, the common control characters by a letter and the others by four hexadecimal
digits; every other character stands as it is.  A number that is not finite has no JSON text and is
written `null`.
-/

namespace BearerGate.Json

/-- A hexadecimal digit in lower case. -/
def hexDigit (n : Nat) : Char :=
  if n < 10 then Char.ofNat (n + 48) else Char.ofNat (n + 87)

/-- The text of one character inside a string. -/
def escapeChar (c : Char) : List Char :=
  if c = '"' then ['\\', '"']
  else if c = '\\' then ['\\', '\\']
  else if c = '\n' then ['\\', 'n']
  else if c = '\r' then ['\\', 'r']
  else if c = '\t' then ['\\', 't']
  else if c = '\x08' then ['\\', 'b']
  else if c = '\x0c' then ['\\', 'f']
  else if c.toNat < 32 then ['\\', 'u', '0', '0', hexDigit (c.toNat / 16), hexDigit (c.toNat % 16)]
  else [c]

/-- A string in quotes. -/
def renderString (s : String) : List Char :=
  '"' :: (s.toList.flatMap escapeChar ++ ['"'])

def renderNumber (n : Number) : List Char :=
  if n.isFinite then n.render.toList else "null".toList

mutual

/-- The characters of a value's text. -/
def renderChars : Json → List Char
  | null => "null".toList
  | bool true => "true".toList
  | bool false => "false".toList
  | number n => renderNumber n
  | string s => renderString s
  | array elements => '[' :: (renderElements elements ++ [']'])
  | object members => '\x7b' :: (renderMembers members ++ ['\x7d'])

/-- Values with commas between them. -/
def renderElements : List Json → List Char
  | [] => []
  | [j] => renderChars j
  | j :: js => renderChars j ++ ',' :: renderElements js

/-- Members with commas between them. -/
def renderMembers : List (String × Json) → List Char
  | [] => []
  | [(k, j)] => renderString k ++ ':' :: renderChars j
  | (k, j) :: ms => renderString k ++ ':' :: (renderChars j ++ ',' :: renderMembers ms)

end

/-- **The JSON text of a value.** -/
def render (j : Json) : String := String.ofList (renderChars j)

end BearerGate.Json
