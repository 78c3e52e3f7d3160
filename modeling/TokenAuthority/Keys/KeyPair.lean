import TokenAuthority.Keys.Error
import TokenAuthority.Rsa.Container
import TokenAuthority.Text.Quoted

/-!
# Key pairs

A private key under its key id. The factors of its modulus are coprime, so that it can sign. What is shown of
a pair never includes the private key.
-/

namespace TokenAuthority

/-- A key id and the material of its private key. -/
structure KeyEntry where
  kid : String
  pem : String
  deriving DecidableEq, Repr

/-- A private key under its key id. -/
structure KeyPair where
  kid : String
  key : Rsa.PrivateKey
  coprime : Nat.Coprime key.factor1 key.factor2
  deriving DecidableEq

namespace KeyPair

/-- The name of the signature algorithm of every key. -/
def algorithm : String := "RS256"

/-- Reads the key of an entry. -/
def ofEntry (entry : KeyEntry) : Except MaterialFault KeyPair :=
  match Rsa.PrivateKey.ofPem? entry.pem with
  | none => .error .unreadable
  | some key =>
      if h : Nat.Coprime key.factor1 key.factor2 then .ok ⟨entry.kid, key, h⟩ else .error .unusable

/-- The public half of a pair. -/
def publicKey (pair : KeyPair) : Rsa.PublicKey :=
  pair.key.publicKey

/-- The armoured public half of a pair. -/
def publicPem (pair : KeyPair) : String :=
  pair.publicKey.toPem

/-- A description that leaves the key out. -/
def describe (pair : KeyPair) : String :=
  s!"KeyPair \x7b kid: {Text.quote pair.kid}, .. \x7d"

end KeyPair

/-- A description that leaves the material out. -/
def KeyEntry.describe (entry : KeyEntry) : String :=
  s!"KeyEntry \x7b kid: {Text.quote entry.kid}, .. \x7d"

end TokenAuthority
