/-!
# JSON numbers

A number is kept as it is written. It stands for an integer only without fraction and exponent, and it is
finite when it does not round to an infinite double.
-/

namespace TokenAuthority.Json

/-- The parts of a written number. -/
structure Numeral where
  negative : Bool
  /-- The digits before the point. -/
  whole : List Char
  /-- The digits after the point, when there is one. -/
  fraction : Option (List Char)
  /-- Whether the exponent is negative, and its digits. -/
  exponent : Option (Bool × List Char)
  deriving DecidableEq, Repr

namespace Numeral

/-- The numeral of an integer. -/
def ofInt (n : Int) : Numeral :=
  ⟨n < 0, Nat.toDigits 10 n.natAbs, none, none⟩

/-- The integer of a numeral without fraction and exponent; a negative zero is none. -/
def toInt? (n : Numeral) : Option Int :=
  if n.fraction.isSome || n.exponent.isSome then none
  else
    let magnitude := Nat.ofDigitChars 10 n.whole 0
    if n.negative then (if magnitude = 0 then none else some (-magnitude)) else some magnitude

/-! ## Doubles -/

/-- A natural number rounded to 53 significant bits, a half going to the even neighbour. -/
def roundToDouble (n : Nat) : Nat :=
  let excess := n.log2 + 1 - 53
  if excess = 0 then n
  else
    let unit := Nat.pow 2 excess
    let quotient := n / unit
    let remainder := n % unit
    let half := unit / 2
    if half < remainder ∨ (remainder = half ∧ quotient % 2 = 1) then (quotient + 1) * unit else quotient * unit

/-- The least magnitude that rounds to an infinite double. -/
def infiniteFrom : Nat := Nat.pow 2 1024 - Nat.pow 2 970

/-- Extends a significand by the digits that it can take without passing 64 bits, and counts them. -/
def extend (significand : Nat) : List Char → Nat × Nat
  | [] => (significand, 0)
  | d :: ds =>
      let next := 10 * significand + (d.toNat - 48)
      if next < Nat.pow 2 64 then
        let (result, taken) := extend next ds
        (result, taken + 1)
      else (significand, 0)

/-- The significand of at most 64 bits and the power of ten that a numeral is evaluated from. -/
def scientific (n : Numeral) : Nat × Int :=
  let (lead, leadTaken) := extend 0 n.whole
  let (significand, fractionTaken) := extend lead (n.fraction.getD [])
  let written : Int := match n.exponent with
    | none => 0
    | some (negative, ds) =>
        if negative then -(Nat.ofDigitChars 10 ds 0 : Int) else (Nat.ofDigitChars 10 ds 0 : Int)
  (significand, n.whole.length - leadTaken - fractionTaken + written)

/-- Whether a numeral stays below infinity when its rounded significand is multiplied by the rounded power. -/
def isFinite (n : Numeral) : Bool :=
  let (significand, power) := n.scientific
  significand == 0 || power < 0 ||
    (power ≤ 308 && roundToDouble significand * roundToDouble (Nat.pow 10 power.toNat) < infiniteFrom)

/-- Whether an infinite numeral's exponent passes 31 bits before its last digit. -/
def stopsShort (n : Numeral) : Bool :=
  match n.exponent with
  | some (false, ds) => !n.isFinite && Nat.pow 2 31 ≤ Nat.ofDigitChars 10 ds.dropLast 0
  | _ => false

end Numeral

end TokenAuthority.Json
