import TokenAuthority.Encoding.Der
import TokenAuthority.Encoding.Pem
import TokenAuthority.Rsa.Key

/-!
# Containers of RSA keys

A private key is read from an armoured block, either labelled `PRIVATE KEY`, where the key is wrapped together
with the name of its algorithm, or labelled `RSA PRIVATE KEY`, where it stands bare. A public key is written
under `PUBLIC KEY` and can be read back.
-/

namespace TokenAuthority.Rsa

/-- The contents that name the algorithm: the identifier of RSA encryption and a null. -/
def algorithmContents : List UInt8 :=
  [0x06, 0x09, 0x2A, 0x86, 0x48, 0x86, 0xF7, 0x0D, 0x01, 0x01, 0x01, 0x05, 0x00]

/-! ## Private keys -/

/-- The numbers of a bare private key: version zero, the key itself, and three numbers derived from it, which
are not looked at. -/
def Components.ofBytes? (bytes : List UInt8) : Option Components := do
  match ← Der.integers? 9 (← Der.only? Der.sequenceTag bytes) with
  | [0, n, e, d, p, q, _, _, _] => some ⟨n, e, d, p, q⟩
  | _ => none

/-- The bytes after the leading elements with the tag of attributes. -/
def skipAttributes : (fuel : Nat) → List UInt8 → Option (List UInt8)
  | 0, bytes => some bytes
  | fuel + 1, bytes =>
      match bytes with
      | [] => some []
      | tag :: _ =>
          if tag = 0x80 ∨ tag = 0xA0 then (Der.any? bytes).bind fun (_, _, rest) => skipAttributes fuel rest
          else some bytes

/-- Whether only further tagged elements follow, each around one element. -/
def onlyExtensions : (fuel : Nat) → List UInt8 → Bool
  | 0, bytes => bytes.isEmpty
  | fuel + 1, bytes =>
      bytes.isEmpty || match Der.any? bytes with
        | some (tag, contents, rest) =>
            0xA0 ≤ tag && tag < 0xC0 && (match Der.any? contents with
              | some (_, _, []) => true
              | _ => false) && onlyExtensions fuel rest
        | none => false

/-- The bytes after an optional public half, and whether there is one: a bit string under the tag 1. -/
def skipPublicHalf (bytes : List UInt8) : Option (Bool × List UInt8) :=
  match bytes with
  | 0x81 :: _ =>
      (Der.element? 0x81 bytes).bind fun (contents, rest) =>
        match contents with
        | unused :: bits => if unused ≤ 7 ∧ (bits.isEmpty → unused = 0) then some (true, rest) else none
        | [] => none
  | 0xA1 :: _ => none
  | _ => some (false, bytes)

/-- The bytes of the bare key inside a wrapped one. The public half is there exactly in version one. -/
def unwrap? (bytes : List UInt8) : Option (List UInt8) := do
  let contents ← Der.only? Der.sequenceTag bytes
  let (version, rest) ← Der.integer? contents
  let (algorithm, rest) ← Der.element? Der.sequenceTag rest
  let (key, rest) ← Der.element? Der.octetStringTag rest
  let rest ← skipAttributes rest.length rest
  let (hasPublicHalf, rest) ← skipPublicHalf rest
  if version ≤ 1 ∧ algorithm = algorithmContents ∧ hasPublicHalf = (version == 1) ∧ onlyExtensions rest.length rest
  then some key else none

/-- Reads a private key from an armoured text. -/
def PrivateKey.ofPem? (text : String) : Option PrivateKey :=
  let wrapped := do PrivateKey.ofComponents? (← Components.ofBytes? (← unwrap? (← Pem.read? "PRIVATE KEY" text)))
  wrapped <|> do PrivateKey.ofComponents? (← Components.ofBytes? (← Pem.read? "RSA PRIVATE KEY" text))

/-! ## Public keys -/

/-- The bytes of a public key, wrapped with the name of its algorithm. -/
def PublicKey.toBytes (key : PublicKey) : List UInt8 :=
  let bare := Der.element Der.sequenceTag (Der.integer key.modulus ++ Der.integer key.exponent)
  Der.element Der.sequenceTag
    (Der.element Der.sequenceTag algorithmContents ++ Der.element Der.bitStringTag (0 :: bare))

/-- The armoured text of a public key. -/
def PublicKey.toPem (key : PublicKey) : String :=
  Pem.write "PUBLIC KEY" key.toBytes

/-- The public key of some bytes. -/
def PublicKey.ofBytes? (bytes : List UInt8) : Option PublicKey := do
  let contents ← Der.only? Der.sequenceTag bytes
  let (algorithm, rest) ← Der.element? Der.sequenceTag contents
  match ← Der.only? Der.bitStringTag rest with
  | 0 :: bare =>
      match ← Der.integers? 2 (← Der.only? Der.sequenceTag bare) with
      | [n, e] => if algorithm = algorithmContents then some ⟨n, e⟩ else none
      | _ => none
  | _ => none

/-- Reads a public key from an armoured text. -/
def PublicKey.ofPem? (text : String) : Option PublicKey := do
  PublicKey.ofBytes? (← Pem.read? "PUBLIC KEY" text)

end TokenAuthority.Rsa
