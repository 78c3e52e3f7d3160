import TokenAuthority.Encoding.Unsigned

/-!
# DER

Elements of a tag, a length and contents, in the one form that the distinguished rules allow: lengths are
definite and as short as they can be, and so are integers. Only natural numbers occur here.
-/

namespace TokenAuthority.Der

/-- The tag of an integer. -/
def integerTag : UInt8 := 0x02

/-- The tag of a bit string. -/
def bitStringTag : UInt8 := 0x03

/-- The tag of an octet string. -/
def octetStringTag : UInt8 := 0x04

/-- The tag of a sequence. -/
def sequenceTag : UInt8 := 0x30

/-! ## Writing -/

/-- The bytes of a length. -/
def lengthBytes (n : Nat) : List UInt8 :=
  if n < 128 then [UInt8.ofNat n]
  else UInt8.ofNat (128 + Unsigned.byteLength n) :: Unsigned.toBytes (Unsigned.byteLength n) n

/-- The bytes of an element. -/
def element (tag : UInt8) (contents : List UInt8) : List UInt8 :=
  tag :: (lengthBytes contents.length ++ contents)

/-- The bytes of a natural number; one more byte keeps the sign bit clear. -/
def integer (n : Nat) : List UInt8 :=
  element integerTag (Unsigned.toBytes (Unsigned.bitLength n / 8 + 1) n)

/-! ## Reading -/

/-- A length of one to four bytes after its first, as short as it can be. -/
def length? : List UInt8 → Option (Nat × List UInt8)
  | [] => none
  | b :: rest =>
      if b < 128 then some (b.toNat, rest)
      else
        let width := b.toNat - 128
        let n := Unsigned.ofBytes (rest.take width)
        if width ≤ 4 ∧ width ≤ rest.length ∧ 128 ≤ n ∧ Unsigned.byteLength n = width then some (n, rest.drop width)
        else none

/-- The contents of the element with this tag that some bytes begin with, and the bytes after it. -/
def element? (tag : UInt8) : List UInt8 → Option (List UInt8 × List UInt8)
  | [] => none
  | t :: rest =>
      if t = tag then
        (length? rest).bind fun (n, rest) => if n ≤ rest.length then some (rest.take n, rest.drop n) else none
      else none

/-- The contents of the one element with this tag. -/
def only? (tag : UInt8) (bytes : List UInt8) : Option (List UInt8) :=
  match element? tag bytes with
  | some (contents, []) => some contents
  | _ => none

/-- The natural number of some contents: not empty, not negative and without a zero byte too many. -/
def natural? : List UInt8 → Option Nat
  | [] => none
  | [b] => if b < 128 then some b.toNat else none
  | b :: c :: rest => if b < 128 ∧ ¬ (b = 0 ∧ c < 128) then some (Unsigned.ofBytes (b :: c :: rest)) else none

/-- A natural number, and the bytes after it. -/
def integer? (bytes : List UInt8) : Option (Nat × List UInt8) :=
  (element? integerTag bytes).bind fun (contents, rest) => (natural? contents).map fun n => (n, rest)

/-- So many natural numbers and nothing after them. -/
def integers? : (count : Nat) → List UInt8 → Option (List Nat)
  | 0, [] => some []
  | 0, _ :: _ => none
  | count + 1, bytes => do
      let (n, rest) ← integer? bytes
      let ns ← integers? count rest
      some (n :: ns)

/-- Whether a tag has a meaning: one of the universal types in use, or a short tag of another class. -/
def isTag (tag : UInt8) : Bool :=
  if tag < 0x40 then
    [0x01, 0x02, 0x03, 0x04, 0x05, 0x06, 0x09, 0x0A, 0x0C, 0x12, 0x13, 0x14, 0x15, 0x16, 0x17, 0x18, 0x1A, 0x1B,
      0x1E, 0x30, 0x31].contains tag
  else tag.toNat % 32 != 31

/-- The element that some bytes begin with, whatever its tag: tag, contents, and the bytes after it. -/
def any? : List UInt8 → Option (UInt8 × List UInt8 × List UInt8)
  | [] => none
  | tag :: rest =>
      if isTag tag then (element? tag (tag :: rest)).map fun (contents, rest) => (tag, contents, rest) else none

end TokenAuthority.Der
