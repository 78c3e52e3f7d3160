import TokenAuthority.Json.Decoding
import TokenAuthority.Json.Soundness

/-!
# Keys embedded in a token header

A header may carry a public key. It is never used, but a header with one that is not of the shape of a key is
refused: the common fields have their types and occur once, and the rest describes a key of one of four kinds.
-/

namespace TokenAuthority.EmbeddedKey

open Json

/-- How deep containers may nest in the fields of an embedded key, which stands inside a header. -/
def fieldDepth : Nat := depthLimit - 2

/-- The names of the signature algorithms that are known. -/
def signatureAlgorithms : List String :=
  ["HS256", "HS384", "HS512", "ES256", "ES384", "RS256", "RS384", "RS512", "PS256", "PS384", "PS512", "EdDSA"]

/-- The names of the algorithms that an embedded key may be meant for. -/
def keyAlgorithms : List String :=
  signatureAlgorithms ++ ["RSA1_5", "RSA-OAEP", "RSA-OAEP-256"]

/-- Whether a value is a text. -/
def isText : Value → Bool
  | .text (some _) => true
  | _ => false

/-- Whether a value is a list of texts. -/
def isTextList : Value → Bool
  | .array items _ => items.all isText
  | _ => false

/-- Whether a value is a choice among names. -/
def isChoice (names : List String) : Value → Bool
  | .text (some s) => names.contains s
  | .object [(.name s, .null)] _ => names.contains s
  | _ => false

/-- Whether a value chooses an algorithm; an empty object may stand for the null beside the name. -/
def isAlgorithmChoice : Value → Bool
  | .object [(.name s, .object [] _)] _ => keyAlgorithms.contains s
  | v => isChoice keyAlgorithms v

/-- The common fields and what their values must be. -/
def commonFields : List (String × (Value → Bool)) := [
  ("use", isText), ("key_ops", isTextList), ("alg", isAlgorithmChoice), ("kid", isText), ("x5u", isText),
  ("x5c", isTextList), ("x5t", isText), ("x5t#S256", isText)]

/-- The four kinds of keys: the fields of each and what their values must be. -/
def kinds : List (List (String × (Value → Bool))) := [
  [("kty", isChoice ["EC"]), ("crv", isChoice ["P-256", "P-384", "P-521", "Ed25519"]), ("x", isText), ("y", isText)],
  [("kty", isChoice ["RSA"]), ("n", isText), ("e", isText)],
  [("kty", isChoice ["oct"]), ("k", isText)],
  [("kty", isChoice ["OKP"]), ("crv", isChoice ["P-256", "P-384", "P-521", "Ed25519"]), ("x", isText)]]

/-- The values under a name. -/
def valuesOf (fields : List (Key × Value)) (name : String) : List Value :=
  (fields.filter fun field => field.1 = .name name).map Prod.snd

/-- Whether a value is null. -/
def isNull : Value → Bool
  | .null => true
  | _ => false

/-- Whether a common field is absent, null, or there once with a fitting value. -/
def commonFits (fields : List (Key × Value)) (field : String × (Value → Bool)) : Bool :=
  match valuesOf fields field.1 with
  | [] => true
  | [v] => isNull v || field.2 v
  | _ => false

/-- Whether the fields describe a key of a kind: each field of it is there once with a fitting value. -/
def kindFits (fields : List (Key × Value)) (kind : List (String × (Value → Bool))) : Bool :=
  kind.all fun (name, fits) => match valuesOf fields name with
    | [v] => fits v
    | _ => false

/-- Reads an embedded key, of which nothing is kept. -/
def decoder : Decoder Unit
  | .object fields true =>
      if (Value.object fields true).isSound (fieldDepth + 1) && commonFields.all (commonFits fields) &&
          kinds.any (kindFits fields) then .ok ()
      else .error .unsuitable
  | _ => .error .unsuitable

end TokenAuthority.EmbeddedKey
