import TokenAuthority.Http.Message
import TokenAuthority.Text.Blank
import TokenAuthority.Token.Error

/-!
# Credentials

The token that a request bears in its first authorization header, after the scheme `Bearer`.
-/

namespace TokenAuthority.Http

/-- Why a request bears no token. -/
inductive CredentialFault
  | missing
  | notAscii
  | scheme
  | empty
  deriving DecidableEq, Repr

/-- The wording of a fault. -/
def CredentialFault.message : CredentialFault → String
  | .missing => "missing authorization header"
  | .notAscii => "authorization header is not ascii"
  | .scheme => "expected authorization header format: Bearer <token>"
  | .empty => "empty bearer token"

/-- A fault as an error of tokens. -/
def CredentialFault.toTokenError (fault : CredentialFault) : TokenError :=
  .malformed (.reported fault.message)

/-- What stands in front of the token. -/
def bearerScheme : List Char := "Bearer ".toList

/-- The token that a request bears. -/
def Request.bearerToken (request : Request) : Except CredentialFault String :=
  match request.header? "authorization" with
  | none => .error .missing
  | some value => match Request.visibleText? value with
    | none => .error .notAscii
    | some cs =>
        if cs.take bearerScheme.length ≠ bearerScheme then .error .scheme
        else
          let token := Text.trimChars (cs.drop bearerScheme.length)
          if token = [] then .error .empty else .ok (String.ofList token)

end TokenAuthority.Http
