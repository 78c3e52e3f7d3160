import TokenAuthority.Encoding.Base64
import TokenAuthority.Keys.Registry
import TokenAuthority.Token.Error
import TokenAuthority.Token.Header
import TokenAuthority.Token.Payload

/-!
# The token authority

Issues tokens and verifies them. A token is three segments joined by dots: the header, the payload, and the
signature of the two before it, each in base64. The key that the header names in the registry, and no other, is
the one to check the signature with. Verification checks structure, key, signature, claims, time window and
issuer in this order and gives claims out only after all of them.
-/

namespace TokenAuthority

/-- The three segments of a token. -/
structure Segments where
  header : List Char
  payload : List Char
  signature : List Char
  deriving DecidableEq, Repr

namespace Segments

/-- The parts of a text between its dots. -/
def split : List Char → List (List Char)
  | [] => [[]]
  | c :: cs =>
      if c = '.' then [] :: split cs
      else match split cs with
        | first :: others => (c :: first) :: others
        | [] => [[c]]

/-- The segments of a text with exactly two dots. -/
def ofText? (token : String) : Option Segments :=
  match split token.toList with
  | [header, payload, signature] => some ⟨header, payload, signature⟩
  | _ => none

/-- What is signed: the header and the payload with the dot between them. -/
def message (s : Segments) : List UInt8 :=
  Text.Utf8.encode (s.header ++ '.' :: s.payload)

/-- The text of the segments. -/
def toText (s : Segments) : String :=
  String.ofList (s.header ++ '.' :: (s.payload ++ '.' :: s.signature))

/-- The segment of a document. -/
def ofDocument (d : Json.Document) : List Char :=
  Base64.encode Base64.url (Text.Utf8.encode d.chars)

/-- The source inside a segment. -/
def source? (segment : List Char) : Option Json.Source :=
  (Base64.decode? Base64.url segment).map Text.Utf8.decode

end Segments

/-- Who issues tokens, and for how long they hold. -/
structure Authority where
  issuer : String
  lifetime : Duration
  deriving DecidableEq, Repr

namespace Authority

/-- Signs claims with a key pair. -/
def signWith (pair : KeyPair) (claims : Claims) : Except TokenError String :=
  let header := Segments.ofDocument (TokenHeader.issued KeyPair.algorithm pair.kid)
  let payload := Segments.ofDocument claims.toDocument
  match pair.key.sign (Segments.message ⟨header, payload, []⟩) with
  | .ok signature => .ok (Segments.toText ⟨header, payload, Base64.encode Base64.url signature⟩)
  | .error fault => .error (.signing fault)

/-- Signs claims with the active key. -/
def issue (registry : Registry) (claims : Claims) : Except TokenError String :=
  match registry.signingPair with
  | .ok pair => signWith pair claims
  | .error cause => .error (.noSigningKey cause)

/-- Stamps claims for a user and signs them. -/
def mint (authority : Authority) (registry : Registry) (user : UserId) (roles : RoleSet) (now : Instant) :
    Except TokenError (String × Claims) :=
  match Claims.stamp? user roles authority.issuer now authority.lifetime with
  | none => .error .lifetimeOutOfRange
  | some claims => (issue registry claims).map fun token => (token, claims)

/-- Reads the header of a token. -/
def readHeader (segments : Segments) : Except TokenError TokenHeader :=
  match Segments.source? segments.header with
  | none => .error (.malformed .headerEncoding)
  | some source => match Json.decodeWhole TokenHeader.decoder source with
    | .ok header => .ok header
    | .error _ => .error (.malformed .headerJson)

/-- The key id that the header of a token names. -/
def namedKid (segments : Segments) : Except TokenError String := do
  let header ← readHeader segments
  if header.algorithm ≠ KeyPair.algorithm then throw (.malformed (.algorithm header.algorithm))
  match header.kid with
  | some kid => .ok kid
  | none => throw (.malformed .noKid)

/-- Checks the signature of a token with a public key. -/
def checkSignature (key : Rsa.PublicKey) (segments : Segments) : Except TokenError Unit :=
  match Base64.decode? Base64.url segments.signature with
  | none => .error (.malformed .encoding)
  | some signature =>
      if key.accepts segments.message signature then .ok () else .error .signatureMismatch

/-- Reads the claims of a token. -/
def readClaims (segments : Segments) : Except TokenError Claims :=
  match Segments.source? segments.payload with
  | none => .error (.malformed .encoding)
  | some source => match Json.decodeWhole Payload.decoder source with
    | .ok claims => .ok claims
    | .error _ => .error (.malformed .json)

/-- Checks that claims hold at an instant. -/
def checkWindow (claims : Claims) (now : Instant) : Except TokenError Unit :=
  match claims.checkWindow now with
  | .ok () => .ok ()
  | .error .emptyWindow => .error .emptyWindow
  | .error .expired => .error .expired

/-- Verifies a token at an instant and gives out its claims. -/
def verify (authority : Authority) (registry : Registry) (token : String) (now : Instant) :
    Except TokenError Claims := do
  let some segments := Segments.ofText? token | throw (.malformed .segments)
  let kid ← namedKid segments
  let pair ← match registry.checkingPair kid with
    | .ok pair => pure pair
    | .error cause => throw (.keyNotFound cause)
  checkSignature pair.publicKey segments
  let claims ← readClaims segments
  checkWindow claims now
  if claims.issuer = authority.issuer then .ok claims
  else throw (.wrongIssuer authority.issuer claims.issuer)

end Authority

end TokenAuthority
