/-!
# UTF-8

Characters to bytes and back. Decoding keeps its place in bad input: a byte that begins no character is
passed over alone and stands as `none`.
-/

namespace TokenAuthority.Text.Utf8

/-- The bytes of some characters. -/
def encode (cs : List Char) : List UInt8 :=
  cs.flatMap String.utf8EncodeChar

/-- The bytes of a text. -/
def bytes (s : String) : List UInt8 :=
  encode s.toList

/-- The character that a byte string begins with. -/
def first? (bs : List UInt8) : Option Char :=
  ByteArray.utf8DecodeChar? ⟨(bs.take 4).toArray⟩ 0

/-- The characters of a byte string after those already `found`, which are listed last first. -/
def decodeOnto (found : List (Option Char)) (bs : List UInt8) : List (Option Char) :=
  match bs with
  | [] => found.reverse
  | b :: rest => match first? (b :: rest) with
    | some c => decodeOnto (some c :: found) (rest.drop (c.utf8Size - 1))
    | none => decodeOnto (none :: found) rest
termination_by bs.length
decreasing_by
  · simp only [List.length_drop, List.length_cons]
    omega
  · simp

/-- The characters of a byte string, `none` for each byte that begins no character. -/
def decode (bs : List UInt8) : List (Option Char) :=
  decodeOnto [] bs

/-- The text of a byte string that holds characters only. -/
def text? (bs : List UInt8) : Option String :=
  ((decode bs).mapM id).map String.ofList

end TokenAuthority.Text.Utf8
