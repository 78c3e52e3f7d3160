/-!
# Natural numbers as bytes

The bytes of a number, most significant first.
-/

namespace TokenAuthority.Unsigned

/-- The number of some bytes. -/
def ofBytes (bytes : List UInt8) : Nat :=
  bytes.foldl (fun n b => 256 * n + b.toNat) 0

/-- The last `width` bytes of a number. -/
def toBytes : (width : Nat) → Nat → List UInt8
  | 0, _ => []
  | width + 1, n => toBytes width (n / 256) ++ [UInt8.ofNat (n % 256)]

/-- The number of bits of a number, none for zero. -/
def bitLength (n : Nat) : Nat :=
  if n = 0 then 0 else n.log2 + 1

/-- The number of bytes of a number, none for zero. -/
def byteLength (n : Nat) : Nat :=
  (bitLength n + 7) / 8

end TokenAuthority.Unsigned
