import Mathlib.NumberTheory.LucasPrimality
import Mathlib.Tactic.NormNum.Prime
import TokenAuthority.Proofs.Encoding.Exact
import TokenAuthority.Proofs.Rsa.Recovery

/-!
# Signatures are unique

With prime factors the power with the public exponent tells all numbers below the modulus apart, also those that have a
factor in common with it. So a message has no more than one signature. Main statement: `Rsa.PublicKey.Verifies.unique`.
-/

namespace TokenAuthority

namespace Rsa

/-- Modulo a prime, powers with an exponent that can be undone agree only for numbers that agree. -/
theorem modEq_of_pow_modEq {p d e x y : Nat} (hp : p.Prime) (hde : d * e % (p - 1) = 1)
    (h : x ^ e ≡ y ^ e [MOD p]) : x ≡ y [MOD p] :=
  calc
    x ≡ x ^ (d * e) [MOD p] := (pow_modEq_self hp hde x).symm
    _ = (x ^ e) ^ d := by rw [Nat.mul_comm, Nat.pow_mul]
    _ ≡ (y ^ e) ^ d [MOD p] := h.pow d
    _ = y ^ (d * e) := by rw [Nat.mul_comm d, Nat.pow_mul]
    _ ≡ y [MOD p] := pow_modEq_self hp hde y

variable {key : PrivateKey} (h1 : key.factor1.Prime) (h2 : key.factor2.Prime)
  (hcoprime : Nat.Coprime key.factor1 key.factor2)
include h1 h2 hcoprime

/-- Numbers below the modulus have different powers. -/
theorem PrivateKey.eq_of_pow_mod_eq {x y : Nat} (hx : x < key.modulus) (hy : y < key.modulus)
    (h : x ^ key.publicExponent % key.modulus = y ^ key.publicExponent % key.modulus) : x = y := by
  have hpow : x ^ key.publicExponent ≡ y ^ key.publicExponent [MOD key.factor1 * key.factor2] := by
    rw [key.factor1_mul_factor2]
    exact h
  obtain ⟨hpow1, hpow2⟩ := (Nat.modEq_and_modEq_iff_modEq_mul hcoprime).2 hpow
  have hmod : x ≡ y [MOD key.factor1 * key.factor2] := (Nat.modEq_and_modEq_iff_modEq_mul hcoprime).1
    ⟨modEq_of_pow_modEq h1 key.exponents_factor1 hpow1, modEq_of_pow_modEq h2 key.exponents_factor2 hpow2⟩
  rw [key.factor1_mul_factor2] at hmod
  exact hmod.eq_of_lt_of_lt hx hy

/-- A message has one signature at most. -/
theorem PublicKey.Verifies.unique {message signature signature' : List UInt8}
    (h : key.publicKey.Verifies message signature) (h' : key.publicKey.Verifies message signature') :
    signature = signature' :=
  Unsigned.ofBytes_inj (h.length.trans h'.length.symm)
    (key.eq_of_pow_mod_eq h1 h2 hcoprime h.below h'.below (h.power.trans h'.power.symm))

end Rsa

/-! ## A sample key -/

theorem Modular.power_eq_one_iff {modulus base exponent : Nat} (h : 1 < modulus) :
    power modulus base exponent = 1 ↔ (base : ZMod modulus) ^ exponent = 1 := by
  have hcast : (base : ZMod modulus) ^ exponent = 1 ↔ base ^ exponent ≡ 1 [MOD modulus] := by
    rw [← ZMod.natCast_eq_natCast_iff, Nat.cast_pow, Nat.cast_one]
  rw [hcast, power_eq, Nat.ModEq, Nat.mod_eq_of_lt h]
  rfl

namespace Rsa

/-- Numbers of which what comes before them has two prime factors only, if `k` is prime. -/
def prothNumber (k n : Nat) : Nat := k * Nat.pow 2 n + 1

theorem one_lt_prothNumber {k n : Nat} (hk : k.Prime) : 1 < prothNumber k n := by
  have hpos : 0 < k * Nat.pow 2 n := Nat.mul_pos hk.pos (Nat.pow_pos (by decide))
  rw [prothNumber]
  omega

/-- Lucas's test: a number is prime if a base has the order that it would have. -/
theorem prime_prothNumber {k n : Nat} (base : Nat) (hk : k.Prime)
    (hone : Modular.power (prothNumber k n) base (prothNumber k n - 1) = 1)
    (htwo : Modular.power (prothNumber k n) base ((prothNumber k n - 1) / 2) ≠ 1)
    (hother : Modular.power (prothNumber k n) base ((prothNumber k n - 1) / k) ≠ 1) : (prothNumber k n).Prime := by
  have hlarge := one_lt_prothNumber (n := n) hk
  rw [Modular.power_eq_one_iff hlarge] at hone
  rw [Ne, Modular.power_eq_one_iff hlarge] at htwo hother
  refine lucas_primality _ (base : ZMod (prothNumber k n)) hone fun q hq hdvd => ?_
  have hsplit : q ∣ k * 2 ^ n := hdvd
  rcases hq.dvd_mul.1 hsplit with hk' | h2
  · obtain rfl := (Nat.prime_dvd_prime_iff_eq hq hk).1 hk'
    exact hother
  · obtain rfl := (Nat.prime_dvd_prime_iff_eq hq Nat.prime_two).1 (hq.dvd_of_dvd_pow h2)
    exact htwo

theorem prime_prothNumber1 : (prothNumber 3931 1012).Prime :=
  prime_prothNumber 3 (by norm_num) (by decide +kernel) (by decide +kernel) (by decide +kernel)

theorem prime_prothNumber2 : (prothNumber 7547 1011).Prime :=
  prime_prothNumber 3 (by norm_num) (by decide +kernel) (by decide +kernel) (by decide +kernel)

/-- A key of 2048 bits with prime factors. -/
def primeKey : PrivateKey where
  modulus := prothNumber 3931 1012 * prothNumber 7547 1011
  publicExponent := 65537
  privateExponent := (53131 * ((prothNumber 3931 1012 - 1) * (prothNumber 7547 1011 - 1)) + 1) / 65537
  factor1 := prothNumber 3931 1012
  factor2 := prothNumber 7547 1011
  consistent := by decide +kernel

theorem primeKey_coprime : Nat.Coprime primeKey.factor1 primeKey.factor2 := by decide +kernel

end Rsa

end TokenAuthority
