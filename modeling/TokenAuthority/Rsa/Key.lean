/-!
# RSA keys

A public key is a modulus and an exponent. A private key adds the private exponent and the two factors of the
modulus, and is consistent: the factors multiply to the modulus and the exponents undo each other modulo one
less than each factor.
-/

namespace TokenAuthority.Rsa

/-- The public half of a key. -/
structure PublicKey where
  modulus : Nat
  exponent : Nat
  deriving DecidableEq, Repr

/-- The numbers of a private key. -/
structure Components where
  modulus : Nat
  publicExponent : Nat
  privateExponent : Nat
  factor1 : Nat
  factor2 : Nat
  deriving DecidableEq, Repr

/-- The largest public exponent. -/
def largestExponent : Nat := Nat.pow 2 33 - 1

namespace Components

/-- Whether the numbers make up a key. -/
def Consistent (c : Components) : Prop :=
  c.modulus % 2 = 1 ∧ c.publicExponent % 2 = 1 ∧ 2 ≤ c.publicExponent ∧ c.publicExponent ≤ largestExponent ∧
  c.publicExponent < c.modulus ∧ 1 < c.factor1 ∧ 1 < c.factor2 ∧ c.factor1 * c.factor2 = c.modulus ∧
  c.privateExponent * c.publicExponent % (c.factor1 - 1) = 1 ∧
  c.privateExponent * c.publicExponent % (c.factor2 - 1) = 1

instance (c : Components) : Decidable c.Consistent := by
  unfold Consistent; infer_instance

end Components

/-- A private key. -/
structure PrivateKey extends Components where
  consistent : toComponents.Consistent
  deriving DecidableEq

namespace PrivateKey

/-- The key of some numbers, when they are consistent. -/
def ofComponents? (c : Components) : Option PrivateKey :=
  if h : c.Consistent then some ⟨c, h⟩ else none

/-- The public half of a key. -/
def publicKey (key : PrivateKey) : PublicKey :=
  ⟨key.modulus, key.publicExponent⟩

end PrivateKey

end TokenAuthority.Rsa
