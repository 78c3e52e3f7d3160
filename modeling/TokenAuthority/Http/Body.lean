import TokenAuthority.Http.MediaType
import TokenAuthority.Http.Message
import TokenAuthority.Json.Decoding
import TokenAuthority.Text.Utf8

/-!
# Request bodies

A body of JSON is refused for its content type, then for its length, then for what it holds. What follows the
JSON value does not matter.
-/

namespace TokenAuthority.Http

/-- The longest body in bytes. -/
def longestBody : Nat := 2097152

/-- Why a body is refused. -/
inductive BodyFault
  | contentType
  | tooLong
  | malformed
  | unsuitable
  deriving DecidableEq, Repr

/-- The status of a refusal. -/
def BodyFault.status : BodyFault → Nat
  | .contentType => 415
  | .tooLong => 413
  | .malformed => 400
  | .unsuitable => 422

/-- The wording of a refusal. -/
def BodyFault.message : BodyFault → String
  | .contentType => "Expected request with `Content-Type: application/json`"
  | .tooLong => "Failed to buffer the request body: length limit exceeded"
  | .malformed => "Failed to parse the request body as JSON"
  | .unsuitable => "Failed to deserialize the JSON body into the target type"

/-- Whether a request says that its body is JSON. -/
def Request.saysJson (request : Request) : Bool :=
  match (request.header? "content-type").bind Request.visibleText? with
  | some cs => MediaType.isJson cs
  | none => false

/-- Decodes the body of a request. -/
def Request.decodeBody {α : Type} (request : Request) (decoder : Json.Decoder α) : Except BodyFault α :=
  if !request.saysJson then .error .contentType
  else if longestBody < request.body.length then .error .tooLong
  else match Json.decodeLeading decoder (Text.Utf8.decode request.body) with
    | .ok a => .ok a
    | .error .malformed => .error .malformed
    | .error .unsuitable => .error .unsuitable

end TokenAuthority.Http
