import TokenAuthority.Encoding.Base64

/-!
# Armoured text

Bytes between a line that begins and a line that ends a labelled block, in lines of 64 characters of base64.
Text may stand before the block and one line end after it. A line ends in a line feed, a carriage return, or a
carriage return and a line feed.
-/

namespace TokenAuthority.Pem

/-- The text after the line end it begins with. -/
def afterLineEnd? : List Char → Option (List Char)
  | '\r' :: '\n' :: rest => some rest
  | '\n' :: rest => some rest
  | '\r' :: rest => some rest
  | _ => none

theorem afterLineEnd?_length {cs rest : List Char} (h : afterLineEnd? cs = some rest) :
    rest.length < cs.length := by
  unfold afterLineEnd? at h
  split at h
  · cases h; simp only [List.length_cons]; omega
  · cases h; simp only [List.length_cons]; omega
  · cases h; simp only [List.length_cons]; omega
  · cases h

/-- The text before the line end it closes with. -/
def beforeLineEnd? (cs : List Char) : Option (List Char) :=
  match cs.reverse with
  | '\n' :: '\r' :: rest => some rest.reverse
  | '\n' :: rest => some rest.reverse
  | '\r' :: rest => some rest.reverse
  | _ => none

/-- The text after a text that it begins with. -/
def after? (start cs : List Char) : Option (List Char) :=
  if cs.take start.length = start then some (cs.drop start.length) else none

/-- The text before a text that it ends with. -/
def before? (ending cs : List Char) : Option (List Char) :=
  (after? ending.reverse cs.reverse).map List.reverse

/-- What a block begins with. -/
def beginMark : List Char := "-----BEGIN ".toList

/-- The text from the first mark at the start of a line, when no NUL stands before it. -/
def skipPreamble : List Char → Option (List Char)
  | [] => none
  | c :: rest =>
      if c = '\x00' then none
      else if c = '\n' ∧ (after? beginMark rest).isSome then some rest
      else skipPreamble rest

/-- The text inside the block with this label. -/
def body? (label : List Char) (cs : List Char) : Option (List Char) := do
  let cs ← if (after? beginMark cs).isSome then some cs else skipPreamble cs
  let cs ← after? (beginMark ++ label ++ "-----".toList) cs
  let cs ← afterLineEnd? cs
  let cs := (beforeLineEnd? cs).getD cs
  let cs ← before? ("-----END ".toList ++ label ++ "-----".toList) cs
  beforeLineEnd? cs

/-- Joins lines of 64 characters, the last of which may be shorter. -/
def unwrap? (cs : List Char) : Option (List Char) :=
  if cs.length ≤ 64 then some cs
  else match _h : afterLineEnd? (cs.drop 64) with
    | some rest => (unwrap? rest).map fun joined => cs.take 64 ++ joined
    | none => none
termination_by cs.length
decreasing_by
  have := afterLineEnd?_length _h
  rw [List.length_drop] at this
  omega

/-- The bytes of the block with this label. -/
def read? (label : String) (text : String) : Option (List UInt8) := do
  let body ← body? label.toList text.toList
  if body.isEmpty then none
  else Base64.decodePadded? Base64.standard (← unwrap? body)

/-- Lines of 64 characters, each with its line feed. -/
def wrap (cs : List Char) : List Char :=
  if cs.isEmpty then [] else cs.take 64 ++ '\n' :: wrap (cs.drop 64)
termination_by cs.length
decreasing_by
  have : cs.length ≠ 0 := by simp_all
  rw [List.length_drop]
  omega

/-- A block of bytes with this label. -/
def write (label : String) (bytes : List UInt8) : String :=
  String.ofList (beginMark ++ label.toList ++ "-----\n".toList ++ wrap (Base64.encodePadded Base64.standard bytes) ++
    "-----END ".toList ++ label.toList ++ "-----\n".toList)

end TokenAuthority.Pem
