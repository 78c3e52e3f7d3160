import TokenAuthority.Digest.Sha256
import TokenAuthority.Encoding.Unsigned
import TokenAuthority.Rsa.Key
import TokenAuthority.Rsa.Modular

/-!
# RSA signatures

Signatures over the SHA-256 digest of a message, padded to the width of the modulus. Signing works modulo each
factor and checks its result before it gives it out; it takes only keys of 2048 to 4096 bits with evenly sized
factors. Checking takes keys of up to 8192 bits.
-/

namespace TokenAuthority.Rsa

/-- The bytes that name SHA-256 in front of a digest. -/
def digestName : List UInt8 :=
  [0x30, 0x31, 0x30, 0x0d, 0x06, 0x09, 0x60, 0x86, 0x48, 0x01, 0x65, 0x03, 0x04, 0x02, 0x01, 0x05, 0x00, 0x04, 0x20]

/-- The message as a number of `width` bytes: a mark, ones, the name of the digest and the digest. -/
def paddedDigest (width : Nat) (message : List UInt8) : Nat :=
  let tail := 0x00 :: (digestName ++ Sha256.digest message)
  Unsigned.ofBytes (0x00 :: 0x01 :: (List.replicate (width - 2 - tail.length) 0xFF ++ tail))

/-! ## Checking -/

/-- Whether a key is of a size that is checked with: 2048 to 8192 bits in whole bytes. -/
def PublicKey.isCheckable (key : PublicKey) : Bool :=
  2048 ≤ 8 * Unsigned.byteLength key.modulus && Unsigned.bitLength key.modulus ≤ 8192

/-- Whether a signature is the signature of a message. -/
def PublicKey.accepts (key : PublicKey) (message signature : List UInt8) : Bool :=
  let s := Unsigned.ofBytes signature
  key.isCheckable && signature.length == Unsigned.byteLength key.modulus && s != 0 && s < key.modulus &&
    Modular.power key.modulus s key.exponent == paddedDigest (Unsigned.byteLength key.modulus) message

/-! ## Signing -/

/-- Why a key does not sign. -/
inductive SigningFault
  | tooSmall
  | tooLarge
  | inconsistent
  /-- A factor's length is no multiple of 512 bits. -/
  | factorLength
  /-- The signature did not pass its check. -/
  | failed
  /-- A fault that another component describes in its own words. -/
  | reported (text : String)
  deriving DecidableEq, Repr

/-- The wording of a fault. -/
def SigningFault.message : SigningFault → String
  | .tooSmall => "RSA key invalid: TooSmall"
  | .tooLarge => "RSA key invalid: TooLarge"
  | .inconsistent => "RSA key invalid: InconsistentComponents"
  | .factorLength => "RSA key invalid: PrivateModulusLenNotMultipleOf512Bits"
  | .failed => "RsaFailedSigning"
  | .reported text => text

namespace PrivateKey

/-- Half the length of the modulus in bits, rounded up. -/
def halfLength (key : PrivateKey) : Nat :=
  (Unsigned.bitLength key.modulus + 1) / 2

/-- Checks the length of a factor. -/
def checkFactor (key : PrivateKey) (factor : Nat) : Except SigningFault Unit :=
  if Unsigned.bitLength factor ≠ key.halfLength then .error .inconsistent
  else if Unsigned.bitLength factor % 512 ≠ 0 then .error .factorLength
  else .ok ()

/-- Checks that a key is of a size to sign with. -/
def checkSize (key : PrivateKey) : Except SigningFault Unit := do
  if 8 * Unsigned.byteLength key.modulus < 2048 then throw .tooSmall
  if 4096 < Unsigned.bitLength key.modulus then throw .tooLarge
  if key.publicExponent < 65537 then throw .tooSmall
  key.checkFactor key.factor1
  key.checkFactor key.factor2
  if Unsigned.bitLength key.privateExponent ≤ key.halfLength ∨ key.modulus ≤ key.privateExponent then
    throw .inconsistent

/-- The private power of a number, put together from its remainders modulo the two factors. -/
def privatePower (key : PrivateKey) (m : Nat) : Nat :=
  let p := key.factor1
  let q := key.factor2
  let s1 := Modular.power p m (key.privateExponent % (p - 1))
  let s2 := Modular.power q m (key.privateExponent % (q - 1))
  let h := (s1 + p - s2 % p) * Modular.inverse p q % p
  s2 + q * h

/-- Signs a message. -/
def sign (key : PrivateKey) (message : List UInt8) : Except SigningFault (List UInt8) := do
  key.checkSize
  let width := Unsigned.byteLength key.modulus
  let m := paddedDigest width message
  let s := key.privatePower m
  if Modular.power key.modulus s key.publicExponent = m then .ok (Unsigned.toBytes width s)
  else .error .failed

end PrivateKey

end TokenAuthority.Rsa
