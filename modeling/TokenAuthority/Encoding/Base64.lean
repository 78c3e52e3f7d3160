/-!
# Base64

Bytes as characters of six bits each. Reading is strict: the unused bits of the last character are zero, so
that each byte string has one text. The armour of keys uses the standard alphabet with padding, the segments
of tokens the alphabet for addresses without.
-/

namespace TokenAuthority.Base64

/-- The characters for 62 and 63. -/
structure Alphabet where
  plus : Char
  slash : Char

/-- The alphabet of armoured keys. -/
def standard : Alphabet := ⟨'+', '/'⟩

/-- The alphabet of token segments. -/
def url : Alphabet := ⟨'-', '_'⟩

/-- The character for a value below 64. -/
def Alphabet.char (a : Alphabet) (n : Nat) : Char :=
  if n < 26 then Char.ofNat (65 + n)
  else if n < 52 then Char.ofNat (71 + n)
  else if n < 62 then Char.ofNat (n - 4)
  else if n = 62 then a.plus
  else a.slash

/-- The value of a character. -/
def Alphabet.value? (a : Alphabet) (c : Char) : Option Nat :=
  let n := c.toNat
  if 65 ≤ n ∧ n ≤ 90 then some (n - 65)
  else if 97 ≤ n ∧ n ≤ 122 then some (n - 71)
  else if 48 ≤ n ∧ n ≤ 57 then some (n + 4)
  else if c = a.plus then some 62
  else if c = a.slash then some 63
  else none

/-- The bits of some bytes in groups of six, the last group filled up with zeros. -/
def sextets : List UInt8 → List Nat
  | [] => []
  | [x] => [x.toNat / 4, x.toNat % 4 * 16]
  | [x, y] => [x.toNat / 4, x.toNat % 4 * 16 + y.toNat / 16, y.toNat % 16 * 4]
  | x :: y :: z :: rest =>
      x.toNat / 4 :: (x.toNat % 4 * 16 + y.toNat / 16) :: (y.toNat % 16 * 4 + z.toNat / 64) :: z.toNat % 64 ::
        sextets rest

/-- The bytes of groups of six bits, when what is left over is zero. -/
def ofSextets? : List Nat → Option (List UInt8)
  | [] => some []
  | [_] => none
  | [a, b] => if b % 16 = 0 then some [UInt8.ofNat (a * 4 + b / 16)] else none
  | [a, b, c] =>
      if c % 4 = 0 then some [UInt8.ofNat (a * 4 + b / 16), UInt8.ofNat (b % 16 * 16 + c / 4)] else none
  | a :: b :: c :: d :: rest =>
      (ofSextets? rest).map fun bytes =>
        UInt8.ofNat (a * 4 + b / 16) :: UInt8.ofNat (b % 16 * 16 + c / 4) :: UInt8.ofNat (c % 4 * 64 + d) :: bytes

/-- The text of some bytes, without padding. -/
def encode (a : Alphabet) (bytes : List UInt8) : List Char :=
  (sextets bytes).map a.char

/-- The bytes of a text without padding. -/
def decode? (a : Alphabet) (cs : List Char) : Option (List UInt8) :=
  (cs.mapM a.value?).bind ofSextets?

/-- The text of some bytes, padded to a multiple of four characters. -/
def encodePadded (a : Alphabet) (bytes : List UInt8) : List Char :=
  let cs := encode a bytes
  cs ++ List.replicate ((4 - cs.length % 4) % 4) '='

/-- The bytes of a text padded to a multiple of four characters. -/
def decodePadded? (a : Alphabet) (cs : List Char) : Option (List UInt8) :=
  let padding := min 2 (cs.reverse.takeWhile (· == '=')).length
  if cs.length % 4 = 0 then decode? a (cs.take (cs.length - padding)) else none

end TokenAuthority.Base64
