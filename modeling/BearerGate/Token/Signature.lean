import BearerGate.Crypto.PublicKey
import BearerGate.Token.Basic

/-!
# The signature of a token

The signed message is the text before the second point, as it was sent.  A header may list members that
the reader has to understand (`crit`).  Only `b64` is understood here, and a list has to be a non-empty
array of non-empty strings, each of them `b64`, with that member present and boolean.

The check of the bare signature is a parameter (`SignatureCheck`): `SignatureCheck.real` is the one
that a running service uses.
-/

namespace BearerGate

/-- A key that an issuer publishes under a key id, with the one algorithm it is used for. -/
structure KeyEntry where
  keyId : String
  key : PublicKey
  algorithm : SigningAlgorithm
  deriving DecidableEq, Repr

/-- The check of a bare signature: key, algorithm, message and signature. -/
def SignatureCheck : Type :=
  PublicKey → SigningAlgorithm → (message signature : List UInt8) → Bool

/-- **The check of a running service.** -/
def SignatureCheck.real : SignatureCheck := fun key a message signature =>
  key.verifies a message signature

namespace Token

/-- The members that a header lists as critical are all understood. -/
def criticalUnderstood (header : Members) : Bool :=
  match Table.get? header "crit" with
  | none => true
  | some (.array names) =>
    !names.isEmpty &&
      (names.all fun
        | .string "b64" => true
        | _ => false) &&
      match Table.get? header "b64" with
      | some (.bool _) => true
      | _ => false
  | some _ => false

/-- The signed message and the signature of a token's text. -/
def signedParts (raw : String) : List UInt8 × List UInt8 :=
  match segments? raw with
  | some (h, p, s) => (Text.Utf8.encode (h ++ "." ++ p), Text.Base64url.decode s)
  | none => ([], [])

/-- **Whether the signature of a token holds** under an entry's key and algorithm. -/
def verifies (check : SignatureCheck) (t : Token) (entry : KeyEntry) : Bool :=
  let (message, signature) := signedParts t.raw
  criticalUnderstood t.header && check entry.key entry.algorithm message signature

end Token

end BearerGate
