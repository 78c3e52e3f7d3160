import TokenAuthority.Keys.Error
import TokenAuthority.Rsa.Signature

/-!
# Token errors

Why a token cannot be issued or is not accepted.
-/

namespace TokenAuthority

/-- What is wrong with the text of a token. -/
inductive Malformation
  /-- There are not three segments. -/
  | segments
  /-- The header's segment is no base64. -/
  | headerEncoding
  /-- The header is not of the shape of a header. -/
  | headerJson
  /-- The header names another algorithm. -/
  | algorithm (name : String)
  /-- The header names no key. -/
  | noKid
  /-- The signature or the payload is no base64. -/
  | encoding
  /-- The payload is not of the shape of claims. -/
  | json
  /-- A fault that another component describes in its own words. -/
  | reported (text : String)
  deriving DecidableEq, Repr

/-- The wording of a malformation. -/
def Malformation.message : Malformation → String
  | .segments => "expected three dot-separated segments"
  | .headerEncoding => "header: Base64 error"
  | .headerJson => "header: JSON error"
  | .algorithm name => s!"unsupported algorithm {name}"
  | .noKid => "header has no kid"
  | .encoding => "Base64 error"
  | .json => "JSON error"
  | .reported text => text

/-- Why an operation on tokens failed. -/
inductive TokenError
  | malformed (fault : Malformation)
  /-- The token's key is not to be found. -/
  | keyNotFound (cause : KeyError)
  | signatureMismatch
  | expired
  /-- The token expires no later than it is issued. -/
  | emptyWindow
  /-- The token would expire beyond the representable instants. -/
  | lifetimeOutOfRange
  | wrongIssuer (expected actual : String)
  | noSigningKey (cause : KeyError)
  | signing (fault : Rsa.SigningFault)
  deriving DecidableEq, Repr

/-- The wording of an error. -/
def TokenError.message : TokenError → String
  | .malformed fault => s!"malformed token: {fault.message}"
  | .keyNotFound cause => s!"invalid token: {cause.message}"
  | .signatureMismatch => "invalid token signature"
  | .expired => "token has expired"
  | .emptyWindow => "invalid token time window (exp <= iat)"
  | .lifetimeOutOfRange => "token lifetime is out of range"
  | .wrongIssuer expected actual => s!"invalid issuer: expected '{expected}', got '{actual}'"
  | .noSigningKey cause => s!"no signing key: {cause.message}"
  | .signing fault => s!"signing failed: {fault.message}"

end TokenAuthority
