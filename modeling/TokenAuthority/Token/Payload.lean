import TokenAuthority.Claims.Json
import TokenAuthority.Json.Soundness

/-!
# Token payloads

The payload of a token is read twice: as claims, and as the registered claims of the token format, which are expiry,
not-before, subject, issuer and audience. Of an object these are read by name. Two of the names are not among ours;
their fields may have any value that leaves the second reader right after it, but must not repeat. Of an array they
are read in this order, in which the roles stand for the not-before claim.
-/

namespace TokenAuthority.Payload

open Json

/-- Whether the value of the not-before claim leaves the second reader right after it. Of a container this reader
takes the two brackets only. -/
def notBeforeFits : Value → Bool
  | .array items closed => items.isEmpty && closed
  | .object fields closed => fields.isEmpty && closed
  | v => v.endsCleanly 0

/-- Whether the value of the audience claim leaves the second reader right after it. -/
def audienceFits (v : Value) : Bool :=
  v.endsCleanly (depthLimit - 1)

/-- Whether a field of this name is absent, or there once with a fitting value. -/
def onceFitting (fields : List (Key × Value)) (name : String) (fits : Value → Bool) : Bool :=
  match (fields.filter fun field => field.1 = .name name).map Prod.snd with
  | [] => true
  | [v] => fits v
  | _ => false

/-- Whether the second reader takes a value that reads as claims. -/
def registeredFit : Value → Bool
  | .object fields _ => onceFitting fields "nbf" notBeforeFits && onceFitting fields "aud" audienceFits
  -- All items but the roles are texts with a value and integers, which leave the reader right after them.
  | .array [_, roles, _, _, _] _ => notBeforeFits roles
  | _ => false

/-- Reads the claims of a payload. -/
def decoder : Decoder Claims := fun v => do
  let claims ← Claims.decoder v
  if registeredFit v then .ok claims else .error .unsuitable

end TokenAuthority.Payload
