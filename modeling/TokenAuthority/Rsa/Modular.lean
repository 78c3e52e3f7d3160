/-!
# Modular arithmetic

Powers by repeated squaring and inverses by the extended Euclidean algorithm. Main statement: the power is the
remainder of the power.
-/

namespace TokenAuthority.Modular

/-- The remainder of `base ^ exponent`, by repeated squaring. -/
def power (modulus base exponent : Nat) : Nat :=
  if h : exponent = 0 then 1 % modulus
  else
    let half := power modulus base (exponent / 2)
    let square := half * half % modulus
    if exponent % 2 = 1 then square * base % modulus else square
termination_by exponent
decreasing_by omega

theorem power_eq (modulus base exponent : Nat) : power modulus base exponent = Nat.pow base exponent % modulus := by
  show power modulus base exponent = base ^ exponent % modulus
  fun_induction power modulus base exponent with
  | case1 => simp
  | case2 exponent h half square hodd ih =>
    have he : exponent = exponent / 2 + exponent / 2 + 1 := by omega
    conv => rhs; rw [he, Nat.pow_succ, Nat.pow_add]
    simp only [square, half, ih]
    simp [Nat.mul_mod]
  | case3 exponent h half square hodd ih =>
    have he : exponent = exponent / 2 + exponent / 2 := by omega
    conv => rhs; rw [he, Nat.pow_add]
    simp only [square, half, ih]
    simp [Nat.mul_mod]

/-- The greatest common divisor `g` of two numbers, and a factor `x` with `a * x` congruent to `g` modulo `b`. -/
def bezout (a b : Nat) : Nat × Int × Int :=
  if _h : b = 0 then (a, 1, 0)
  else
    let (g, x, y) := bezout b (a % b)
    (g, y, x - (a / b : Nat) * y)
termination_by b
decreasing_by exact Nat.mod_lt _ (by omega)

/-- The inverse of a number modulo another that is coprime to it. -/
def inverse (modulus n : Nat) : Nat :=
  ((bezout n modulus).2.1 % (modulus : Int)).toNat

end TokenAuthority.Modular
