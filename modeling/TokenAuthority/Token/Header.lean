import TokenAuthority.Json.Document
import TokenAuthority.Token.EmbeddedKey

/-!
# Token headers

The header of a token names the signature algorithm and the key. The other registered fields are checked for
their types and not kept.
-/

namespace TokenAuthority

/-- The part of a header that matters. -/
structure TokenHeader where
  algorithm : String
  kid : Option String
  deriving DecidableEq, Repr

namespace TokenHeader

open Json

/-- The JSON of the header of an issued token. -/
def issued (algorithm kid : String) : Document :=
  .object [("typ", .text "JWT"), ("alg", .text algorithm), ("kid", .text kid)]

/-- A header of which some fields are read. -/
structure Draft where
  algorithm : Option String
  kid : Option (Option String)
  /-- The names of the other fields that are read. -/
  seen : List String

/-- A slot for an optional field that is not kept. -/
def checked {α : Type} (name : String) (decode : Decoder α) : Slot Draft where
  name := name
  mayEndBefore := false
  isSet d := d.seen.contains name
  read v d := (Decoder.optional decode v).map fun _ => { d with seen := name :: d.seen }

/-- The fields of a header, in the order of an array. -/
def slots : List (Slot Draft) := [
  checked "typ" .text,
  .of "alg" Draft.algorithm (fun a d => { d with algorithm := some a })
    (.named fun s => if EmbeddedKey.signatureAlgorithms.contains s then some s else none),
  checked "cty" .text,
  checked "jku" .text,
  checked "jwk" EmbeddedKey.decoder,
  .of "kid" Draft.kid (fun k d => { d with kid := some k }) (.optional .text),
  checked "x5u" .text,
  checked "x5c" (.list .text),
  checked "x5t" .text,
  checked "x5t#S256" .text]

/-- Reads a header. -/
def decoder : Decoder TokenHeader := fun v => do
  let draft ← Record.read slots ⟨none, none, []⟩ v
  .ok ⟨← Record.required draft.algorithm, draft.kid.join⟩

end TokenHeader

end TokenAuthority
