import BearerGate.Crypto.Algorithm
import BearerGate.Crypto.Rsa

/-!
# Public keys

A public key is an RSA key, a point on a curve, or the bytes of a key on one of the curves whose keys are
kept as bytes.  `PublicKey.fits` says which keys an algorithm can be used with at all, and
`PublicKey.verifies` is the check of a signature: false for a key that does not fit.  No algorithm in use
fits a key that is kept as bytes.
-/

namespace BearerGate

open Crypto

/-- The curves whose keys are kept as bytes. -/
inductive ByteCurve where
  | ed25519
  | ed448
  | x25519
  | x448
  deriving DecidableEq, Repr

namespace ByteCurve

def all : List ByteCurve := [ed25519, ed448, x25519, x448]

/-- The name in key set documents. -/
def name : ByteCurve → String
  | ed25519 => "Ed25519"
  | ed448 => "Ed448"
  | x25519 => "X25519"
  | x448 => "X448"

def ofName? (s : String) : Option ByteCurve := all.find? (·.name = s)

/-- How many bytes a key has. -/
def size : ByteCurve → Nat
  | ed25519 | x25519 => 32
  | ed448 => 57
  | x448 => 56

end ByteCurve

/-- **A public key.** -/
inductive PublicKey where
  | rsa (key : Rsa.Key)
  | ec (curve : Curve) (x y : Nat)
  | bytes (curve : ByteCurve) (value : List UInt8)
  deriving DecidableEq, Repr

namespace SigningAlgorithm

/-- How an algorithm signs. -/
inductive Scheme where
  | rsaFixed (digest : Digest)
  | rsaSalted (digest : Digest)
  | ecdsa (digest : Digest) (curve : Curve)
  deriving DecidableEq, Repr

def scheme : SigningAlgorithm → Scheme
  | rs256 => .rsaFixed .sha256
  | rs384 => .rsaFixed .sha384
  | rs512 => .rsaFixed .sha512
  | ps256 => .rsaSalted .sha256
  | ps384 => .rsaSalted .sha384
  | ps512 => .rsaSalted .sha512
  | es256 => .ecdsa .sha256 .p256
  | es384 => .ecdsa .sha384 .p384
  | es512 => .ecdsa .sha512 .p521

end SigningAlgorithm

namespace PublicKey

/-- Whether a key is of the kind, and on the curve, that an algorithm needs. -/
def fits (a : SigningAlgorithm) : PublicKey → Bool
  | rsa _ => match a.scheme with | .ecdsa _ _ => false | _ => true
  | ec c _ _ => match a.scheme with | .ecdsa _ c' => c = c' | _ => false
  | bytes _ _ => false

/-- **The check of a signature** over a message. -/
def verifies (a : SigningAlgorithm) (key : PublicKey) (message signature : List UInt8) : Bool :=
  match a.scheme, key with
  | .rsaFixed d, rsa k => Rsa.verifiesFixed k d message signature
  | .rsaSalted d, rsa k => Rsa.verifiesSalted k d message signature
  | .ecdsa d c, ec c' x y => c = c' && c.verifies x y (d.of message) signature
  | _, _ => false

theorem fits_of_verifies {a : SigningAlgorithm} {key : PublicKey} {message signature : List UInt8}
    (h : verifies a key message signature = true) : fits a key = true := by
  cases key <;> simp only [verifies, fits] at h ⊢ <;> split at h <;> simp_all

end PublicKey

end BearerGate
