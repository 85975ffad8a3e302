import BearerGate.Crypto.Sha2

/-!
# Signatures over prime-field curves

The curves `y² = x³ + a·x + b` over a prime field that a key may lie on, and the check of an ECDSA
signature on them.  Points are kept in **Jacobian** form: `⟨x, y, z⟩` stands for `(x / z², y / z³)` and
`z = 0` for the point at infinity, so that a chain of additions needs no division.
-/

namespace BearerGate.Crypto

/-- `base ^ exponent` modulo `modulus`, by squaring. -/
def powMod (base exponent modulus : Nat) : Nat :=
  (List.range (exponent.log2 + 1)).reverse.foldl
    (fun acc i =>
      let square := acc * acc % modulus
      if exponent.testBit i then square * base % modulus else square)
    (1 % modulus)

/-- The curves that a key may lie on. -/
inductive Curve where
  | p256
  | p384
  | p521
  | secp256k1
  deriving DecidableEq, Repr

namespace Curve

/-- The field, the coefficients, and a generator with its order. -/
structure Parameters where
  p : Nat
  a : Nat
  b : Nat
  order : Nat
  gx : Nat
  gy : Nat

/-- The parameters of P-256. -/
def p256Parameters : Parameters :=
  let p := 0xffffffff00000001000000000000000000000000ffffffffffffffffffffffff
  { p
    a := p - 3
    b := 0x5ac635d8aa3a93e7b3ebbd55769886bc651d06b0cc53b0f63bce3c3e27d2604b
    order := 0xffffffff00000000ffffffffffffffffbce6faada7179e84f3b9cac2fc632551
    gx := 0x6b17d1f2e12c4247f8bce6e563a440f277037d812deb33a0f4a13945d898c296
    gy := 0x4fe342e2fe1a7f9b8ee7eb4a7c0f9e162bce33576b315ececbb6406837bf51f5 }

/-- The parameters of P-384. -/
def p384Parameters : Parameters :=
  let p := 0xfffffffffffffffffffffffffffffffffffffffffffffffffffffffffffffffeffffffff0000000000000000ffffffff
  { p
    a := p - 3
    b := 0xb3312fa7e23ee7e4988e056be3f82d19181d9c6efe8141120314088f5013875ac656398d8a2ed19d2a85c8edd3ec2aef
    order := 0xffffffffffffffffffffffffffffffffffffffffffffffffc7634d81f4372ddf581a0db248b0a77aecec196accc52973
    gx := 0xaa87ca22be8b05378eb1c71ef320ad746e1d3b628ba79b9859f741e082542a385502f25dbf55296c3a545e3872760ab7
    gy := 0x3617de4a96262c6f5d9e98bf9292dc29f8f41dbd289a147ce9da3113b5f0b8c00a60b1ce1d7e819d7a431d7c90ea0e5f }

/-- The parameters of P-521. -/
def p521Parameters : Parameters :=
  let p := 0x1ffffffffffffffffffffffffffffffffffffffffffffffffffffffffffffffffffffffffffffffffffffffffffffffffffffffffffffffffffffffffffffffffff
  { p
    a := p - 3
    b := 0x51953eb9618e1c9a1f929a21a0b68540eea2da725b99b315f3b8b489918ef109e156193951ec7e937b1652c0bd3bb1bf073573df883d2c34f1ef451fd46b503f00
    order := 0x1fffffffffffffffffffffffffffffffffffffffffffffffffffffffffffffffffa51868783bf2f966b7fcc0148f709a5d03bb5c9b8899c47aebb6fb71e91386409
    gx := 0xc6858e06b70404e9cd9e3ecb662395b4429c648139053fb521f828af606b4d3dbaa14b5e77efe75928fe1dc127a2ffa8de3348b3c1856a429bf97e7e31c2e5bd66
    gy := 0x11839296a789a3bc0045c8a5fb42c7d1bd998f54449579b446817afbd17273e662c97ee72995ef42640c550b9013fad0761353c7086a272c24088be94769fd16650 }

/-- The parameters of secp256k1. -/
def secp256k1Parameters : Parameters :=
  let p := 0xfffffffffffffffffffffffffffffffffffffffffffffffffffffffefffffc2f
  { p
    a := 0
    b := 0x7
    order := 0xfffffffffffffffffffffffffffffffebaaedce6af48a03bbfd25e8cd0364141
    gx := 0x79be667ef9dcbbac55a06295ce870b07029bfcdb2dce28d959f2815b16f81798
    gy := 0x483ada7726a3c4655da4fbfc0e1108a8fd17b448a68554199c47d08ffb10d4b8 }

def parameters : Curve → Parameters
  | p256 => p256Parameters
  | p384 => p384Parameters
  | p521 => p521Parameters
  | secp256k1 => secp256k1Parameters

/-- The name of a curve in a key document. -/
def name : Curve → String
  | p256 => "P-256"
  | p384 => "P-384"
  | p521 => "P-521"
  | secp256k1 => "secp256k1"

/-- The name of a curve in reports about a key. -/
def objectName : Curve → String
  | p256 => "prime256v1"
  | p384 => "secp384r1"
  | p521 => "secp521r1"
  | secp256k1 => "secp256k1"

def ofName? (s : String) : Option Curve :=
  [p256, p384, p521, secp256k1].find? (·.name = s)

/-- The length of a coordinate in bytes. -/
def fieldSize (c : Curve) : Nat := (c.parameters.p.log2 + 8) / 8

/-- Whether two coordinates, both below the field's order, are a point of the curve. -/
def contains (c : Curve) (x y : Nat) : Bool :=
  let k := c.parameters
  x < k.p && y < k.p && (y * y) % k.p == (x * x * x + k.a * x + k.b) % k.p

/-! ### Points -/

/-- A point in Jacobian form. -/
structure Point where
  x : Nat
  y : Nat
  z : Nat

def Point.infinity : Point := ⟨1, 1, 0⟩

/-- Subtraction modulo `p` of numbers below `p`. -/
def subMod (p a b : Nat) : Nat := (a + p - b) % p

/-- Twice a point. -/
def double (k : Parameters) (q : Point) : Point :=
  if q.z = 0 then q
  else
    let yy := q.y * q.y % k.p
    let s := 4 * q.x * yy % k.p
    let zz := q.z * q.z % k.p
    let m := (3 * q.x * q.x + k.a * (zz * zz % k.p)) % k.p
    let x := subMod k.p (m * m % k.p) (2 * s % k.p)
    let y := subMod k.p (m * subMod k.p s x % k.p) (8 * yy * yy % k.p)
    ⟨x, y, 2 * q.y * q.z % k.p⟩

/-- The sum of two points. -/
def sum (k : Parameters) (q r : Point) : Point :=
  if q.z = 0 then r
  else if r.z = 0 then q
  else
    let qzz := q.z * q.z % k.p
    let rzz := r.z * r.z % k.p
    let u1 := q.x * rzz % k.p
    let u2 := r.x * qzz % k.p
    let s1 := q.y * (rzz * r.z % k.p) % k.p
    let s2 := r.y * (qzz * q.z % k.p) % k.p
    let h := subMod k.p u2 u1
    let d := subMod k.p s2 s1
    if h = 0 then if d = 0 then double k q else Point.infinity
    else
      let hh := h * h % k.p
      let hhh := hh * h % k.p
      let v := u1 * hh % k.p
      let x := subMod k.p (subMod k.p (d * d % k.p) hhh) (2 * v % k.p)
      let y := subMod k.p (d * subMod k.p v x % k.p) (s1 * hhh % k.p)
      ⟨x, y, h * (q.z * r.z % k.p) % k.p⟩

/-- `m · q + n · r`, both factors read bit by bit from the top. -/
def combine (k : Parameters) (m : Nat) (q : Point) (n : Nat) (r : Point) : Point :=
  let both := sum k q r
  (List.range (max m.log2 n.log2 + 1)).reverse.foldl
    (fun acc i =>
      let twice := double k acc
      match m.testBit i, n.testBit i with
      | true, true => sum k twice both
      | true, false => sum k twice q
      | false, true => sum k twice r
      | false, false => twice)
    Point.infinity

/-! ### Signatures -/

/-- **The check of an ECDSA signature.**  The signature is the two numbers `r` and `s`, each as long as a
coordinate; the digest is as long as the order of the curve, or shorter. -/
def verifies (c : Curve) (x y : Nat) (digest signature : List UInt8) : Bool :=
  let k := c.parameters
  let size := c.fieldSize
  if signature.length ≠ 2 * size then false
  else
    let r := Sha2.ofBigEndian (signature.take size)
    let s := Sha2.ofBigEndian (signature.drop size)
    if r = 0 ∨ s = 0 ∨ k.order ≤ r ∨ k.order ≤ s then false
    else
      let inverse := powMod s (k.order - 2) k.order
      let m := Sha2.ofBigEndian digest * inverse % k.order
      let n := r * inverse % k.order
      let q := combine k m ⟨k.gx, k.gy, 1⟩ n ⟨x, y, 1⟩
      if q.z = 0 then false
      else
        let zInverse := powMod q.z (k.p - 2) k.p
        q.x * (zInverse * zInverse % k.p) % k.p % k.order == r

end Curve

end BearerGate.Crypto
