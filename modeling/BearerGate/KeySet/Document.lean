import BearerGate.Json.Basic
import BearerGate.Text.Base64url
import BearerGate.Token.Signature

/-!
# Key set documents

An issuer publishes its keys as a JSON document: an object whose `keys` is an array of objects.  Each of
these has a string `kty`, and a string or nothing under the other names that are read here.  A document
of any other shape is refused as a whole, with the number of its **faults**: one for each wrong member
of each key, one for a key that is no object, and one for a document without an array of keys.

A record of a document that has the right shape may still be of no use: `KeyRecord.verdict` says why,
or gives the entry.
-/

namespace BearerGate

open Crypto

/-- **A key as a document describes it.** -/
structure KeyRecord where
  kty : String
  kid : Option String
  alg : Option String
  use : Option String
  n : Option String
  e : Option String
  crv : Option String
  x : Option String
  y : Option String
  deriving DecidableEq, Repr

/-! ### Shape -/

/-- Whether a member that should be a string is one. -/
def isStringMember (members : Members) (name : String) : Bool :=
  match Table.get? members name with
  | some (.string _) => true
  | _ => false

/-- Whether a member that should be a string or absent is so. -/
def isOptionalString (members : Members) (name : String) : Bool :=
  match Table.get? members name with
  | none | some (.string _) => true
  | _ => false

/-- The names under which a key has a string or nothing. -/
def optionalKeyNames : List String := ["kid", "alg", "use", "n", "e", "crv", "x", "y"]

/-- How many members of a key are of the wrong kind. -/
def memberFaults (members : Members) : Nat :=
  (if isStringMember members "kty" then 0 else 1) +
    (optionalKeyNames.filter fun name => !isOptionalString members name).length

/-- How many faults one key has. -/
def keyFaults : Json → Nat
  | .object members => memberFaults members
  | _ => 1

/-- The record of a key of the right shape. -/
def KeyRecord.ofJson (j : Json) : KeyRecord where
  kty := (j.stringMember? "kty").getD ""
  kid := j.stringMember? "kid"
  alg := j.stringMember? "alg"
  use := j.stringMember? "use"
  n := j.stringMember? "n"
  e := j.stringMember? "e"
  crv := j.stringMember? "crv"
  x := j.stringMember? "x"
  y := j.stringMember? "y"

/-- **The keys of a document,** or the number of its faults.  There may be no document at all. -/
def keyRecords (document : Option Json) : Except Nat (List KeyRecord) :=
  match document.bind (·.member? "keys") with
  | some (.array keys) =>
    let faults := (keys.map keyFaults).foldl (· + ·) 0
    if faults = 0 then .ok (keys.map .ofJson) else .error faults
  | _ => .error 1

/-! ### Use -/

/-- Names that every table of names answers to, whatever was put into it. -/
def inheritedNames : List String :=
  ["constructor", "__defineGetter__", "__defineSetter__", "hasOwnProperty", "__lookupGetter__",
    "__lookupSetter__", "isPrototypeOf", "propertyIsEnumerable", "toString", "valueOf", "__proto__",
    "toLocaleString"]

/-- What a record says about its algorithm. -/
inductive AlgorithmChoice where
  | chosen (a : SigningAlgorithm)
  /-- The curve's name stands for something, but for no algorithm. -/
  | foreign
  | unsupported
  deriving DecidableEq, Repr

/-- The algorithm that goes with a curve's name. -/
def curveChoice (crv : String) : AlgorithmChoice :=
  if crv = "P-256" then .chosen .es256
  else if crv = "P-384" then .chosen .es384
  else if crv = "P-521" then .chosen .es512
  else if inheritedNames.contains crv then .foreign
  else .unsupported

/-- **The algorithm of a record:** the one that it names, or else the one that its kind of key implies. -/
def KeyRecord.algorithmChoice (r : KeyRecord) : AlgorithmChoice :=
  match r.alg with
  | some alg =>
    match SigningAlgorithm.ofName? alg with
    | some a => .chosen a
    | none => .unsupported
  | none =>
    if r.kty = "RSA" then .chosen .rs256
    else if r.kty = "EC" then (r.crv.map curveChoice).getD .unsupported
    else .unsupported

/-- The number that an encoded text holds. -/
def encodedNumber (s : String) : Nat := Sha2.ofBigEndian (Text.Base64url.decode s)

/-- **The public key of a record,** if its kind is known and its parts are there.  A point has to lie on
its curve, and a key that is kept as bytes needs as many as its curve asks for. -/
def KeyRecord.publicKey? (r : KeyRecord) : Option PublicKey :=
  if r.kty = "RSA" then
    match r.n, r.e with
    | some n, some e => some (.rsa ⟨encodedNumber n, encodedNumber e⟩)
    | _, _ => none
  else if r.kty = "EC" then
    match r.crv.bind Curve.ofName?, r.x, r.y with
    | some c, some x, some y =>
      if c.contains (encodedNumber x) (encodedNumber y) then
        some (.ec c (encodedNumber x) (encodedNumber y))
      else none
    | _, _, _ => none
  else if r.kty = "OKP" then
    match r.crv.bind ByteCurve.ofName?, r.x with
    | some c, some x =>
      let value := Text.Base64url.decode x
      if value.length = c.size then some (.bytes c value) else none
    | _, _ => none
  else none

/-- **What becomes of a record.** -/
inductive KeyVerdict where
  | usable (entry : KeyEntry)
  | withoutKeyId
  | otherUse
  | unsupported (keyId : String)
  | notImportable (keyId : String)
  deriving Repr

/-- The way from a public key's description to the key. -/
abbrev KeyImport := KeyRecord → Option PublicKey

/-- **The verdict on a record.**  A key that is there for something else than signatures is passed over
in silence. -/
def KeyRecord.verdict (importKey : KeyImport) (r : KeyRecord) : KeyVerdict :=
  match r.kid with
  | none => .withoutKeyId
  | some keyId =>
    if keyId = "" then .withoutKeyId
    else if r.use.any (· ≠ "sig") then .otherUse
    else
      match r.algorithmChoice with
      | .unsupported => .unsupported keyId
      | .foreign => .notImportable keyId
      | .chosen algorithm =>
        match importKey r with
        | some key => .usable { keyId, key, algorithm }
        | none => .notImportable keyId

end BearerGate
