import BearerGate.Crypto.Curve

/-!
# RSA signatures

A signature is raised to the public exponent; what comes out has to be the padded digest.  With the
fixed padding (`pkcs1`) there is one right block, which is built and compared.  With the salted
padding (`pss`) the block is taken apart: the salt is as long as the digest and has to lead to the
digest that the block carries.
-/

namespace BearerGate.Crypto.Rsa

/-- A public key. -/
structure Key where
  modulus : Nat
  exponent : Nat
  deriving DecidableEq, Repr

namespace Key

/-- The bit length of the modulus. -/
def bits (k : Key) : Nat := if k.modulus = 0 then 0 else k.modulus.log2 + 1

/-- The byte length of the modulus. -/
def size (k : Key) : Nat := (k.bits + 7) / 8

/-- Keys that signatures are checked with: odd, of 2048 to 16384 bits, with a smaller exponent, which is
short when the modulus is long. -/
def isUsable (k : Key) : Bool :=
  2048 ≤ k.bits && k.bits ≤ 16384 && k.modulus % 2 == 1 && k.exponent < k.modulus &&
    (k.bits ≤ 3072 || k.exponent < Nat.pow 2 64)

end Key

/-- What a signature is the power root of, as a block as long as the modulus. -/
def opened? (k : Key) (signature : List UInt8) : Option (List UInt8) :=
  let s := Sha2.ofBigEndian signature
  if s < k.modulus then some (Sha2.bigEndian k.size (powMod s k.exponent k.modulus)) else none

/-! ### The fixed padding -/

/-- The bytes that say which digest follows. -/
def digestLabel (d : Digest) : List UInt8 :=
  let last : UInt8 := match d with | .sha256 => 1 | .sha384 => 2 | .sha512 => 3
  [0x30, UInt8.ofNat (d.size + 17), 0x30, 0x0d, 0x06, 0x09, 0x60, 0x86, 0x48, 0x01, 0x65, 0x03, 0x04, 0x02,
    last, 0x05, 0x00, 0x04, UInt8.ofNat d.size]

/-- The one block of a length that carries a digest. -/
def fixedBlock (length : Nat) (d : Digest) (message : List UInt8) : List UInt8 :=
  let tail := digestLabel d ++ d.of message
  0 :: 1 :: (List.replicate (length - tail.length - 3) 0xff ++ 0 :: tail)

/-- **The check with the fixed padding;** the signature is exactly as long as the modulus. -/
def verifiesFixed (k : Key) (d : Digest) (message signature : List UInt8) : Bool :=
  k.isUsable && signature.length == k.size &&
    opened? k signature == some (fixedBlock k.size d message)

/-! ### The salted padding -/

/-- A mask of a given length drawn from a seed: digests of the seed with a counter. -/
def mask (d : Digest) (seed : List UInt8) (length : Nat) : List UInt8 :=
  ((List.range (length / d.size + 1)).flatMap fun i => d.of (seed ++ Sha2.bigEndian 4 i)).take length

/-- Whether a block carries a salted digest; `topBits` of its first byte are in use, none meaning that
the first byte is zero and is left out. -/
def isSaltedBlock (d : Digest) (topBits : Nat) (message block : List UInt8) : Bool :=
  let keep : UInt8 := UInt8.ofNat (Nat.pow 2 topBits - 1)
  let first := block.headD 0
  if first &&& (~~~keep) ≠ 0 then false
  else
    let block := if topBits = 0 then block.drop 1 else block
    let length := block.length
    if length < 2 * d.size + 2 then false
    else if block.getLastD 0 ≠ 0xbc then false
    else
      let dbLength := length - d.size - 1
      let digest := (block.drop dbLength).take d.size
      let masked := block.take dbLength
      let db := List.zipWith (· ^^^ ·) masked (mask d digest dbLength)
      let db :=
        match db with
        | b :: bs => if topBits = 0 then b :: bs else (b &&& keep) :: bs
        | [] => []
      let start := List.replicate (dbLength - d.size - 1) (0 : UInt8) ++ [1]
      let salt := db.drop (dbLength - d.size)
      db.take (dbLength - d.size) == start &&
        d.of (List.replicate 8 0 ++ d.of message ++ salt) == digest

/-- **The check with the salted padding;** the signature is no longer than the modulus. -/
def verifiesSalted (k : Key) (d : Digest) (message signature : List UInt8) : Bool :=
  k.isUsable && signature.length ≤ k.size &&
    match opened? k signature with
    | none => false
    | some block => isSaltedBlock d ((k.bits - 1) % 8) message block

end BearerGate.Crypto.Rsa
