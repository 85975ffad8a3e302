import BearerGate.Url.Host

/-!
# Addresses

`Url.parse?` reads an address, on its own or relative to a base; `Url.href` writes it.  Reading takes
the text apart from the outside in: the fragment after the first `#`, the query after the first `?`,
the scheme before the first `:`, the authority after the slashes, and last the segments of the path.

Web schemes (`http`, `https`, `ws`, `wss`, `ftp`) and `file` are **special**: a backslash is a slash to
them, a host is a name or a number, and their path is never empty.  Reading normalises: the default port
goes, `.` and `..` segments are carried out, and characters that may not stand where they are become
escapes.
-/

namespace BearerGate

/-- The path of an address: segments, each after a slash, or one text that is not taken apart. -/
inductive UrlPath where
  | segments (list : List String)
  | opaqueText (text : String)
  deriving DecidableEq, Repr

/-- **An address.** -/
structure Url where
  scheme : String
  username : String := ""
  password : String := ""
  host : Option String := none
  port : Option Nat := none
  path : UrlPath
  query : Option String := none
  fragment : Option String := none
  deriving DecidableEq, Repr

namespace Url

/-! ### Schemes -/

/-- The default ports of the special schemes; `file` has none. -/
def specialSchemes : List (String × Option Nat) :=
  [("ftp", some 21), ("file", none), ("http", some 80), ("https", some 443), ("ws", some 80),
    ("wss", some 443)]

def isSpecial (scheme : String) : Bool := specialSchemes.any (·.1 = scheme)

def defaultPort? (scheme : String) : Option Nat :=
  (specialSchemes.find? (·.1 = scheme)).bind (·.2)

/-- The scheme before the first colon, in lower case, and the rest after it. -/
def takeScheme? (cs : List Char) : Option (String × List Char) :=
  let isSchemeChar (c : Char) : Bool := c.isAlphanum || c = '+' || c = '-' || c = '.'
  let scheme := cs.takeWhile isSchemeChar
  match scheme, cs.drop scheme.length with
  | c :: _, ':' :: rest =>
    if c.isAlpha then some (String.ofList (scheme.map Char.toLower), rest) else none
  | _, _ => none

/-! ### Paths -/

/-- Whether a character separates segments. -/
def isSlash (special : Bool) (c : Char) : Bool := c = '/' || (special && c = '\\')

def isSingleDot (segment : List Char) : Bool :=
  [".", "%2e"].contains (String.ofList (segment.map Char.toLower))

def isDoubleDot (segment : List Char) : Bool :=
  ["..", ".%2e", "%2e.", "%2e%2e"].contains (String.ofList (segment.map Char.toLower))

/-- A letter and a colon, or a bar in its place. -/
def isDrive : List Char → Bool
  | [l, c] => l.isAlpha && (c = ':' || c = '|')
  | _ => false

/-- A drive at the start of a text, alone or before a separator. -/
def startsWithDrive (cs : List Char) : Bool :=
  isDrive (cs.take 2) && (cs.drop 2).head?.all fun c => c = '/' || c = '\\'

/-- Drops the last segment; a drive at the start of a `file` path stays. -/
def shorten (scheme : String) (path : List String) : List String :=
  match path with
  | [drive] =>
    if scheme = "file" ∧ isDrive drive.toList ∧ drive.toList.getLast? = some ':' then [drive] else []
  | _ => path.dropLast

/-- Carries out one segment on a path; `last` says that no separator follows it.  After a last `..` the
path ends with a separator, except if there was nothing to drop and the scheme is not special. -/
def pushSegment (scheme : String) (path : List String) (segment : List Char) (last : Bool) :
    List String :=
  if isDoubleDot segment then
    let shortened := shorten scheme path
    if last ∧ (isSpecial scheme ∨ path ≠ []) then shortened ++ [""] else shortened
  else if isSingleDot segment then if last then path ++ [""] else path
  else
    let text := String.ofList (Percent.encode Percent.inPath segment)
    if scheme = "file" ∧ path = [] ∧ isDrive segment then
      path ++ [String.ofList (segment.take 1) ++ ":"]
    else path ++ [text]

/-- Carries out segments one after the other. -/
def pushSegments (scheme : String) (path : List String) : List (List Char) → List String
  | [] => path
  | [segment] => pushSegment scheme path segment true
  | segment :: rest => pushSegments scheme (pushSegment scheme path segment false) rest

/-- **Carries out the segments of a text** on a path. -/
def extendPath (scheme : String) (path : List String) (cs : List Char) : List String :=
  pushSegments scheme path (Text.piecesBy (isSlash (isSpecial scheme)) cs)

/-- The path after an authority: a slash at its start belongs to the first segment. -/
def rootedPath (scheme : String) (cs : List Char) : UrlPath :=
  match cs with
  | [] => .segments (if isSpecial scheme then [""] else [])
  | c :: rest =>
    .segments (extendPath scheme [] (if isSlash (isSpecial scheme) c then rest else c :: rest))

/-! ### Authorities -/

/-- Splits a text at the last occurrence of a character. -/
def splitLast? (c : Char) (cs : List Char) : Option (List Char × List Char) :=
  match cs.reverse.dropWhile (· ≠ c) with
  | [] => none
  | _ :: front => some (front.reverse, (cs.reverse.takeWhile (· ≠ c)).reverse)

/-- Splits a host from what follows the first colon outside brackets. -/
def splitPort (inBrackets : Bool) : List Char → List Char × Option (List Char)
  | [] => ([], none)
  | c :: cs =>
    if c = ':' ∧ !inBrackets then ([], some cs)
    else
      let inside := if c = '[' then true else if c = ']' then false else inBrackets
      let (host, port) := splitPort inside cs
      (c :: host, port)

/-- A port: nothing, or a number up to 65535; the default port of the scheme is not kept. -/
def port? (scheme : String) (cs : List Char) : Option (Option Nat) :=
  if cs = [] then some none
  else if cs.all Char.isDigit then
    let n := Number.digitsValue 10 cs
    if 65535 < n then none
    else some (if defaultPort? scheme = some n then none else some n)
  else none

/-- The authority in a text, and an address that has it. -/
def withAuthority? (scheme : String) (authority : List Char) (path : UrlPath) : Option Url :=
  let special := isSpecial scheme
  let (userInfo, hostPort) :=
    match splitLast? '@' authority with
    | some (u, h) => (some u, h)
    | none => (none, authority)
  let user := (userInfo.getD []).takeWhile (· ≠ ':')
  let password := ((userInfo.getD []).dropWhile (· ≠ ':')).drop 1
  let escape (cs : List Char) := String.ofList (Percent.encode Percent.inUserInfo cs)
  let (hostText, portText) := splitPort false hostPort
  if hostText = [] ∧ (special ∨ userInfo.isSome ∨ portText.isSome) then none
  else
    match (if hostText = [] then some "" else Host.parse? special hostText),
      port? scheme (portText.getD []) with
    | some host, some port =>
      some { scheme, username := escape user, password := escape password, host := some host, port, path }
    | _, _ => none

/-- Reads an authority and the path after it. -/
def afterSlashes? (scheme : String) (cs : List Char) : Option Url :=
  let isEnd := isSlash (isSpecial scheme)
  withAuthority? scheme (cs.takeWhile fun c => !isEnd c) (rootedPath scheme (cs.dropWhile fun c => !isEnd c))

/-! ### Files -/

/-- Reads what follows two slashes of a `file` address. -/
def fileHost? (cs : List Char) : Option Url :=
  let isEnd := isSlash true
  let text := cs.takeWhile fun c => !isEnd c
  let rest := cs.dropWhile fun c => !isEnd c
  if isDrive text then some { scheme := "file", host := some "", path := rootedPath "file" cs }
  else if text = [] then some { scheme := "file", host := some "", path := rootedPath "file" rest }
  else
    (Host.parse? true text).map fun host =>
      { scheme := "file", host := some (if host = "localhost" then "" else host)
        path := rootedPath "file" rest }

/-- The segments of an address's path, if it has segments. -/
def segmentsOf (u : Url) : List String :=
  match u.path with
  | .segments list => list
  | .opaqueText _ => []

/-- Reads a `file` address after its scheme, or relative to a `file` base. -/
def file? (base : Option Url) (cs : List Char) (hasQuery : Bool) : Option Url :=
  let base := base.bind fun b => if b.scheme = "file" then some b else none
  match cs with
  | a :: rest =>
    if isSlash true a then
      match rest with
      | b :: more =>
        if isSlash true b then fileHost? more else some (oneSlash base rest)
      | [] => some (oneSlash base rest)
    else
      match base with
      | some b =>
        let start := if startsWithDrive cs then [] else shorten "file" b.segmentsOf
        some { b with path := .segments (extendPath "file" start cs), query := none, fragment := none }
      | none => some { scheme := "file", host := some "", path := .segments (extendPath "file" [] cs) }
  | [] =>
    match base with
    | some b => some { b with query := if hasQuery then none else b.query, fragment := none }
    | none => some { scheme := "file", host := some "", path := .segments [""] }
where
  oneSlash (base : Option Url) (cs : List Char) : Url :=
    let host := (base.bind (·.host)).getD ""
    let start :=
      match base.map (·.segmentsOf) with
      | some (drive :: _) =>
        if !startsWithDrive cs && isDrive drive.toList && drive.toList.getLast? = some ':' then [drive]
        else []
      | _ => []
    { scheme := "file", host := some host, path := .segments (extendPath "file" start cs) }

/-! ### Whole addresses -/

/-- Reads an address without query and fragment that starts with a scheme. -/
def absolute? (base : Option Url) (scheme : String) (cs : List Char) (hasQuery : Bool) : Option Url :=
  if scheme = "file" then file? base cs hasQuery
  else if isSpecial scheme then afterSlashes? scheme (cs.dropWhile (isSlash true))
  else
    match cs with
    | '/' :: '/' :: rest => afterSlashes? scheme rest
    | '/' :: rest => some { scheme, path := .segments (extendPath scheme [] rest) }
    | _ => some { scheme, path := .opaqueText (String.ofList (Percent.encode Percent.isControl cs)) }

/-- **Resolves a text without scheme against a base.**  An empty text is the base
itself; a text that starts with two slashes takes only the scheme from it, one that starts with one
slash also the host, and any other replaces the last segment. -/
def relative? (base : Url) (cs : List Char) (hasQuery : Bool) : Option Url :=
  let special := isSpecial base.scheme
  match cs with
  | [] => some { base with query := if hasQuery then none else base.query, fragment := none }
  | a :: rest =>
    if isSlash special a then
      match rest with
      | b :: more =>
        if isSlash special b then
          afterSlashes? base.scheme (if special then more.dropWhile (isSlash true) else more)
        else some (onHost [] rest)
      | [] => some (onHost [] rest)
    else some (onHost (shorten base.scheme base.segmentsOf) cs)
where
  onHost (start : List String) (cs : List Char) : Url :=
    { base with path := .segments (extendPath base.scheme start cs), query := none, fragment := none }

/-- The text of a path that is not taken apart, with segments carried out on it.  What stands before its
first slash stays; the last of what follows is replaced. -/
def extendText (scheme text : String) (cs : List Char) : String :=
  match Text.piecesBy (· = '/') text.toList with
  | [] => text
  | first :: segments =>
    let start := shorten scheme (segments.map String.ofList)
    String.ofList first ++ String.join ((extendPath scheme start cs).map ("/" ++ ·))

/-- **Resolves a text without scheme against a base whose path is one text.**  Only a text with a fragment can
be resolved: the fragment alone leaves the base as it is, and before it a text counts as against any other
base. -/
def relativeToText? (base : Url) (text : String) (cs : List Char) (hasQuery hasFragment : Bool) :
    Option Url :=
  if hasFragment then
    match cs with
    | [] | '/' :: _ => relative? base cs hasQuery
    | _ =>
      some { base with
        path := .opaqueText (extendText base.scheme text cs), query := none, fragment := none }
  else none

/-- The blanks that are cut off both ends of an address: everything up to the space. -/
def isOuterBlank (c : Char) : Bool := c.toNat ≤ 0x20

/-- The text of an address without blanks around it and without tabs and line ends in it. -/
def cleaned (s : String) : List Char :=
  (Text.trimChars isOuterBlank s.toList).filter fun c => c ≠ '\t' && c ≠ '\n' && c ≠ '\r'

/-- Reads an address that is already cut into text, query and fragment. -/
def ofParts? (base : Option Url) (cs : List Char) (query fragment : Option (List Char)) : Option Url :=
  let core : Option Url :=
    match takeScheme? cs with
    | some (scheme, rest) =>
      match base with
      | some b =>
        if isSpecial scheme ∧ scheme ≠ "file" ∧ scheme = b.scheme ∧
            ¬(rest.take 2 = ['/', '/']) then
          relative? b rest query.isSome
        else absolute? base scheme rest query.isSome
      | none => absolute? none scheme rest query.isSome
    | none =>
      match base with
      | none => none
      | some b =>
        match b.path with
        | .opaqueText text => relativeToText? b text cs query.isSome fragment.isSome
        | .segments _ =>
          if b.scheme = "file" then file? base cs query.isSome else relative? b cs query.isSome
  core.map fun u =>
    let escaped := if isSpecial u.scheme then Percent.inSpecialQuery else Percent.inQuery
    { u with
      query := (query.map fun q => String.ofList (Percent.encode escaped q)).or u.query
      fragment := fragment.map fun f => String.ofList (Percent.encode Percent.inFragment f) }

/-- **Reading an address,** on its own or relative to a base. -/
def parse? (s : String) (base : Option Url) : Option Url :=
  let cs := cleaned s
  let beforeFragment := cs.takeWhile (· ≠ '#')
  let fragment := match cs.dropWhile (· ≠ '#') with | [] => none | _ :: f => some f
  let query := match beforeFragment.dropWhile (· ≠ '?') with | [] => none | _ :: q => some q
  ofParts? base (beforeFragment.takeWhile (· ≠ '?')) query fragment

/-! ### Writing -/

def pathText (u : Url) : String :=
  match u.path with
  | .opaqueText text => text
  | .segments list => String.join (list.map ("/" ++ ·))

/-- The user, the host and the port, with the two slashes before them. -/
def authorityText (u : Url) : String :=
  let portText := (u.port.map fun p => ":" ++ toString p).getD ""
  match u.host with
  | none =>
    match u.path with
    | .segments ("" :: _ :: _) => "/."
    | _ => ""
  | some host =>
    let user :=
      if u.username = "" ∧ u.password = "" then ""
      else u.username ++ (if u.password = "" then "" else ":" ++ u.password) ++ "@"
    "//" ++ user ++ host ++ portText

/-- The host with the port, if the port is not the default. -/
def hostText (u : Url) : String := u.host.getD "" ++ ((u.port.map fun p => ":" ++ toString p).getD "")

/-- **The text of an address.** -/
def href (u : Url) : String :=
  u.scheme ++ ":" ++ authorityText u ++ pathText u ++
    ((u.query.map ("?" ++ ·)).getD "") ++ ((u.fragment.map ("#" ++ ·)).getD "")

end Url

end BearerGate
