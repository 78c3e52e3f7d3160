import Mathlib.FieldTheory.Finite.Basic
import TokenAuthority.Proofs.Rsa.Signature

/-!
# Keys that sign

The private power of a key whose factors are prime is undone by the public exponent, so such a key signs every message
if its numbers are of the lengths that signing asks for. Main statement: `Rsa.PrivateKey.exists_sign_iff`.
-/

namespace TokenAuthority

/-! ## Inverses -/

namespace Modular

theorem bezout_spec (a b : Nat) : a * (bezout a b).2.1 + b * (bezout a b).2.2 = (Nat.gcd a b : Int) := by
  fun_induction bezout a b with
  | case1 a => simp
  | case2 a b hb g x y hrec ih =>
      rw [hrec] at ih
      have hsplit : (a : Int) = b * (a / b : Nat) + (a % b : Nat) := by
        exact_mod_cast (Nat.div_add_mod a b).symm
      calc
        (a : Int) * y + b * (x - (a / b : Nat) * y)
          = (b * (a / b : Nat) + (a % b : Nat)) * y + b * (x - (a / b : Nat) * y) := by rw [← hsplit]
        _ = b * x + (a % b : Nat) * y := by ring
        _ = (Nat.gcd b (a % b) : Int) := ih
        _ = (Nat.gcd a b : Int) := by rw [Nat.gcd_comm a b, Nat.gcd_rec b a, Nat.gcd_comm]

/-- The inverse of a number that is coprime to the modulus. -/
theorem mul_inverse {modulus n : Nat} (hmodulus : 0 < modulus) (h : Nat.Coprime n modulus) :
    n * inverse modulus n ≡ 1 [MOD modulus] := by
  have hinverse : (inverse modulus n : Int) = (bezout n modulus).2.1 % modulus :=
    Int.toNat_of_nonneg (Int.emod_nonneg _ (Int.natCast_ne_zero.2 (Nat.ne_of_gt hmodulus)))
  have hspec := bezout_spec n modulus
  rw [h, Nat.cast_one] at hspec
  rw [← Int.natCast_modEq_iff, Nat.cast_mul, hinverse, Nat.cast_one]
  calc
    (n : Int) * ((bezout n modulus).2.1 % modulus)
      ≡ n * (bezout n modulus).2.1 [ZMOD modulus] := (Int.mod_modEq _ _).mul_left _
    _ ≡ n * (bezout n modulus).2.1 + modulus * (bezout n modulus).2.2 [ZMOD modulus] :=
        (Int.modEq_add_fac_self).symm
    _ = 1 := hspec

end Modular

/-! ## Padded digests -/

namespace Rsa

theorem length_digest (message : List UInt8) : (Sha256.digest message).length = 32 := rfl

/-- A padded digest begins with a zero byte, so it fits into one byte less than the width. -/
theorem paddedDigest_lt {width : Nat} (hwidth : 54 ≤ width) (message : List UInt8) :
    paddedDigest width message < 256 ^ (width - 1) := by
  have htail : (0x00 :: (digestName ++ Sha256.digest message)).length = 52 := by
    rw [List.length_cons, List.length_append, length_digest]
    rfl
  simp only [paddedDigest, htail]
  generalize 0x00 :: (digestName ++ Sha256.digest message) = tail at htail
  have hbytes := Unsigned.ofBytes_lt (0x01 :: (List.replicate (width - 2 - 52) 0xFF ++ tail))
  have hlength : (0x01 :: (List.replicate (width - 2 - 52) 0xFF ++ tail) : List UInt8).length = width - 1 := by
    rw [List.length_cons, List.length_append, List.length_replicate, htail]
    omega
  rw [hlength] at hbytes
  exact hbytes

/-! ## Private powers -/

/-- Modulo a prime, an exponent that is one modulo one less than the prime gives the number back. -/
theorem pow_modEq_self {p k : Nat} (hp : p.Prime) (hk : k % (p - 1) = 1) (m : Nat) : m ^ k ≡ m [MOD p] := by
  by_cases hdvd : p ∣ m
  · have hzero : m ≡ 0 [MOD p] := (Nat.modEq_zero_iff_dvd).2 hdvd
    have hpos : k ≠ 0 := by
      rintro rfl
      simp at hk
    calc
      m ^ k ≡ 0 ^ k [MOD p] := hzero.pow k
      _ = 0 := Nat.zero_pow (Nat.pos_of_ne_zero hpos)
      _ ≡ m [MOD p] := hzero.symm
  · have hcoprime : Nat.Coprime m p := ((Nat.Prime.coprime_iff_not_dvd hp).2 hdvd).symm
    have hfermat : m ^ (p - 1) ≡ 1 [MOD p] := by
      rw [← Nat.totient_prime hp]
      exact Nat.ModEq.pow_totient hcoprime
    have hexponent : (p - 1) * (k / (p - 1)) + 1 = k := by
      have hsplit := Nat.div_add_mod k (p - 1)
      rwa [hk] at hsplit
    calc
      m ^ k = (m ^ (p - 1)) ^ (k / (p - 1)) * m := by rw [← Nat.pow_mul, ← Nat.pow_add_one, hexponent]
      _ ≡ 1 ^ (k / (p - 1)) * m [MOD p] := (hfermat.pow _).mul_right m
      _ = m := by rw [Nat.one_pow, Nat.one_mul]

namespace PrivateKey

variable {key : PrivateKey}

theorem exponents_factor1 (key : PrivateKey) :
    key.privateExponent * key.publicExponent % (key.factor1 - 1) = 1 :=
  key.consistent.2.2.2.2.2.2.2.2.1

theorem exponents_factor2 (key : PrivateKey) :
    key.privateExponent * key.publicExponent % (key.factor2 - 1) = 1 :=
  key.consistent.2.2.2.2.2.2.2.2.2

/-- Modulo the second factor the private power is the power of its part. -/
theorem privatePower_modEq_factor2 (key : PrivateKey) (m : Nat) :
    key.privatePower m ≡ m ^ (key.privateExponent % (key.factor2 - 1)) [MOD key.factor2] := by
  simp only [privatePower, Modular.power_eq]
  generalize hh : (_ * Modular.inverse key.factor1 key.factor2 % key.factor1) = h
  calc
    _ ≡ m ^ (key.privateExponent % (key.factor2 - 1)) % key.factor2 [MOD key.factor2] := by
        rw [Nat.ModEq, Nat.add_mul_mod_self_left]
        rfl
    _ ≡ m ^ (key.privateExponent % (key.factor2 - 1)) [MOD key.factor2] := Nat.mod_modEq _ _

/-- Modulo the first factor the private power is the power of its part, since what is added makes up for the
difference of the parts. -/
theorem privatePower_modEq_factor1 (hcoprime : Nat.Coprime key.factor1 key.factor2) (m : Nat) :
    key.privatePower m ≡ m ^ (key.privateExponent % (key.factor1 - 1)) [MOD key.factor1] := by
  have hpos : 0 < key.factor1 := Nat.lt_trans Nat.zero_lt_one key.factor1_pos
  have hinverse := Modular.mul_inverse hpos hcoprime.symm
  simp only [privatePower, Modular.power_eq]
  generalize hs1 : Nat.pow m (key.privateExponent % (key.factor1 - 1)) % key.factor1 = s1
  generalize hs2 : Nat.pow m (key.privateExponent % (key.factor2 - 1)) % key.factor2 = s2
  have hle : s2 % key.factor1 ≤ s1 + key.factor1 := by
    have hbelow := Nat.mod_lt s2 hpos
    omega
  calc
    s2 + key.factor2 * ((s1 + key.factor1 - s2 % key.factor1) * Modular.inverse key.factor1 key.factor2 % key.factor1)
      ≡ s2 + key.factor2 * ((s1 + key.factor1 - s2 % key.factor1) * Modular.inverse key.factor1 key.factor2)
        [MOD key.factor1] := ((Nat.mod_modEq _ _).mul_left _).add_left _
    _ = s2 + (s1 + key.factor1 - s2 % key.factor1) * (key.factor2 * Modular.inverse key.factor1 key.factor2) := by ring
    _ ≡ s2 + (s1 + key.factor1 - s2 % key.factor1) * 1 [MOD key.factor1] := (hinverse.mul_left _).add_left _
    _ ≡ s2 % key.factor1 + (s1 + key.factor1 - s2 % key.factor1) * 1 [MOD key.factor1] :=
        (Nat.mod_modEq _ _).symm.add_right _
    _ = s1 + key.factor1 := by omega
    _ ≡ s1 [MOD key.factor1] := Nat.add_modEq_right
    _ ≡ m ^ (key.privateExponent % (key.factor1 - 1)) [MOD key.factor1] := by
        rw [← hs1]
        exact Nat.mod_modEq _ _

theorem pow_privatePower_factor {p d e : Nat} (hp : p.Prime) (hde : d * e % (p - 1) = 1) {s m : Nat}
    (hs : s ≡ m ^ (d % (p - 1)) [MOD p]) : s ^ e ≡ m [MOD p] := by
  have hreduced : d % (p - 1) * e % (p - 1) = 1 := by rw [Nat.mod_mul_mod, hde]
  calc
    s ^ e ≡ (m ^ (d % (p - 1))) ^ e [MOD p] := hs.pow e
    _ = m ^ (d % (p - 1) * e) := (Nat.pow_mul _ _ _).symm
    _ ≡ m [MOD p] := pow_modEq_self hp hreduced m

/-- With prime factors the public exponent undoes the private power. -/
theorem pow_privatePower (h1 : key.factor1.Prime) (h2 : key.factor2.Prime)
    (hcoprime : Nat.Coprime key.factor1 key.factor2) (m : Nat) :
    key.privatePower m ^ key.publicExponent ≡ m [MOD key.modulus] := by
  rw [← key.factor1_mul_factor2, ← Nat.modEq_and_modEq_iff_modEq_mul hcoprime]
  exact ⟨pow_privatePower_factor h1 key.exponents_factor1 (privatePower_modEq_factor1 hcoprime m),
    pow_privatePower_factor h2 key.exponents_factor2 (key.privatePower_modEq_factor2 m)⟩

/-! ## Which keys sign -/

/-- The digest that is signed is below the modulus. -/
theorem Fits.paddedDigest_lt (h : key.Fits) (message : List UInt8) :
    paddedDigest (Unsigned.byteLength key.modulus) message < key.modulus := by
  have hmodulus : key.modulus ≠ 0 := by
    rintro hzero
    have hwide := h.wide
    simp [hzero, Unsigned.byteLength, Unsigned.bitLength] at hwide
  have hwidth : 54 ≤ Unsigned.byteLength key.modulus := by
    have hwide := h.wide
    omega
  exact Nat.lt_of_lt_of_le (Rsa.paddedDigest_lt hwidth message) (Unsigned.pow_byteLength_le hmodulus)

/-- A key whose factors are prime signs a message if and only if its numbers are of the lengths that are asked for. -/
theorem exists_sign_iff (h1 : key.factor1.Prime) (h2 : key.factor2.Prime)
    (hcoprime : Nat.Coprime key.factor1 key.factor2) (message : List UInt8) :
    (∃ signature, key.sign message = .ok signature) ↔ key.Fits := by
  constructor
  · rintro ⟨signature, hsign⟩
    exact fits_of_sign hsign
  · intro hfits
    have hrecovered : Modular.power key.modulus
        (key.privatePower (paddedDigest (Unsigned.byteLength key.modulus) message)) key.publicExponent =
          paddedDigest (Unsigned.byteLength key.modulus) message := by
      rw [Modular.power_eq]
      exact Eq.trans (pow_privatePower h1 h2 hcoprime _) (Nat.mod_eq_of_lt (hfits.paddedDigest_lt message))
    refine ⟨Unsigned.toBytes (Unsigned.byteLength key.modulus)
      (key.privatePower (paddedDigest (Unsigned.byteLength key.modulus) message)), ?_⟩
    exact Outcome.bind_eq_ok.2 ⟨(), checkSize_eq_ok_iff.2 hfits, if_pos hrecovered⟩

end PrivateKey

end Rsa

end TokenAuthority
