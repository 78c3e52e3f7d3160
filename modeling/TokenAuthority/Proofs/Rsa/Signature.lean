import Mathlib.Tactic.Ring
import TokenAuthority.Proofs.Basic
import TokenAuthority.Proofs.Encoding.Exact
import TokenAuthority.Rsa.Signature

/-!
# Signatures are accepted

What a signature has to satisfy, as arithmetic; which lengths a key must have to sign; and whatever a private key signs,
its public half accepts.
-/

namespace TokenAuthority

namespace Rsa

/-- A padded digest begins with the bytes 0 and 1, so it is no zero. -/
theorem paddedDigest_pos (width : Nat) (message : List UInt8) : 0 < paddedDigest width message := by
  have hsplit (tail : List UInt8) : (0x00 : UInt8) :: 0x01 :: tail = [0x00, 0x01] ++ tail := rfl
  have hlead : Unsigned.ofBytes [0x00, 0x01] = 1 := rfl
  rw [paddedDigest, hsplit, Unsigned.ofBytes_append, hlead, Nat.one_mul]
  exact Nat.add_pos_left (Nat.pow_pos (by decide)) _

/-! ## What is accepted -/

/-- What RS256 asks of a signature of a message: the key is of a size to check with, the signature is as long as
the modulus, and as a number it is positive and below the modulus, and its power is the padded digest. -/
structure PublicKey.Verifies (key : PublicKey) (message signature : List UInt8) : Prop where
  size : 2048 ≤ 8 * Unsigned.byteLength key.modulus ∧ Unsigned.bitLength key.modulus ≤ 8192
  length : signature.length = Unsigned.byteLength key.modulus
  positive : 0 < Unsigned.ofBytes signature
  below : Unsigned.ofBytes signature < key.modulus
  power : Unsigned.ofBytes signature ^ key.exponent % key.modulus =
    paddedDigest (Unsigned.byteLength key.modulus) message

theorem PublicKey.accepts_iff {key : PublicKey} {message signature : List UInt8} :
    key.accepts message signature = true ↔ key.Verifies message signature := by
  have hpower := Modular.power_eq key.modulus (Unsigned.ofBytes signature) key.exponent
  constructor
  · intro h
    simp only [accepts, isCheckable, hpower, Bool.and_eq_true, decide_eq_true_eq, beq_iff_eq, bne_iff_ne] at h
    obtain ⟨⟨⟨⟨hsize, hlength⟩, hpositive⟩, hbelow⟩, hpow⟩ := h
    exact ⟨hsize, hlength, Nat.pos_of_ne_zero hpositive, hbelow, hpow⟩
  · rintro ⟨hsize, hlength, hpositive, hbelow, hpow⟩
    simp only [accepts, isCheckable, hpower, Bool.and_eq_true, decide_eq_true_eq, beq_iff_eq, bne_iff_ne]
    exact ⟨⟨⟨⟨hsize, hlength⟩, Nat.ne_of_gt hpositive⟩, hbelow⟩, hpow⟩

/-! ## What is signed -/

namespace PrivateKey

variable {key : PrivateKey}

theorem factor1_pos (key : PrivateKey) : 1 < key.factor1 := key.consistent.2.2.2.2.2.1

theorem factor2_pos (key : PrivateKey) : 1 < key.factor2 := key.consistent.2.2.2.2.2.2.1

theorem publicExponent_lt (key : PrivateKey) : key.publicExponent < key.modulus := key.consistent.2.2.2.2.1

theorem factor1_mul_factor2 (key : PrivateKey) : key.factor1 * key.factor2 = key.modulus :=
  key.consistent.2.2.2.2.2.2.2.1

/-- The private power is put together from remainders, so it is below the modulus. -/
theorem privatePower_lt (key : PrivateKey) (m : Nat) : key.privatePower m < key.modulus := by
  have hp := key.factor1_pos
  have hq := key.factor2_pos
  simp only [privatePower]
  generalize hh : (_ * Modular.inverse key.factor1 key.factor2 % key.factor1) = h
  have hlow : Modular.power key.factor2 m (key.privateExponent % (key.factor2 - 1)) < key.factor2 := by
    rw [Modular.power_eq]
    exact Nat.mod_lt _ (by omega)
  have hhigh : h + 1 ≤ key.factor1 := by
    rw [← hh]
    exact Nat.mod_lt _ (by omega)
  calc
    _ < key.factor2 + key.factor2 * h := Nat.add_lt_add_right hlow _
    _ = key.factor2 * (h + 1) := by ring
    _ ≤ key.factor2 * key.factor1 := Nat.mul_le_mul_left _ hhigh
    _ = key.modulus := by rw [Nat.mul_comm, key.factor1_mul_factor2]

/-- A key of the lengths that signing asks for. -/
structure Fits (key : PrivateKey) : Prop where
  wide : 2048 ≤ 8 * Unsigned.byteLength key.modulus
  narrow : Unsigned.bitLength key.modulus ≤ 4096
  exponent : 65537 ≤ key.publicExponent
  factor1 : Unsigned.bitLength key.factor1 = key.halfLength
  factor2 : Unsigned.bitLength key.factor2 = key.halfLength
  whole : key.halfLength % 512 = 0
  long : key.halfLength < Unsigned.bitLength key.privateExponent
  below : key.privateExponent < key.modulus

theorem checkFactor_eq_ok_iff {factor : Nat} :
    key.checkFactor factor = .ok () ↔ Unsigned.bitLength factor = key.halfLength ∧ key.halfLength % 512 = 0 := by
  unfold checkFactor
  split
  · rename_i hlength
    simp [hlength]
  · rename_i hlength
    rw [not_not] at hlength
    rw [hlength]
    split
    · rename_i hwhole
      simp [hwhole]
    · rename_i hwhole
      simpa using hwhole

/-- A check comes before all that follows it. -/
theorem guard_eq_ok_iff {p : Prop} [Decidable p] {fault : SigningFault} {rest : Except SigningFault Unit} :
    (do
      if p then throw fault
      rest) = .ok () ↔ ¬ p ∧ rest = .ok () := by
  by_cases hp : p
  · simp [hp, throw, throwThe, MonadExceptOf.throw, bind, Except.bind]
  · simp [hp]

theorem last_guard_eq_ok_iff {p : Prop} [Decidable p] {fault : SigningFault} :
    (if p then throw fault else pure () : Except SigningFault Unit) = .ok () ↔ ¬ p := by
  by_cases hp : p
  · simp [hp, throw, throwThe, MonadExceptOf.throw]
  · simp [hp, pure, Except.pure]

/-- The checks of a key's lengths, all together. -/
theorem checkSize_eq_ok_iff : key.checkSize = .ok () ↔ key.Fits := by
  unfold checkSize
  rw [guard_eq_ok_iff, guard_eq_ok_iff, guard_eq_ok_iff, Nat.not_lt, Nat.not_lt, Nat.not_lt]
  constructor
  · rintro ⟨hwide, hnarrow, hexponent, hrest⟩
    obtain ⟨_, hfactor1, hrest⟩ := Outcome.bind_eq_ok.1 hrest
    obtain ⟨_, hfactor2, hrest⟩ := Outcome.bind_eq_ok.1 hrest
    obtain ⟨hlength1, hwhole⟩ := checkFactor_eq_ok_iff.1 hfactor1
    obtain ⟨hlength2, _⟩ := checkFactor_eq_ok_iff.1 hfactor2
    rw [last_guard_eq_ok_iff, not_or, Nat.not_le, Nat.not_le] at hrest
    exact ⟨hwide, hnarrow, hexponent, hlength1, hlength2, hwhole, hrest.1, hrest.2⟩
  · intro h
    refine ⟨h.wide, h.narrow, h.exponent, ?_⟩
    rw [checkFactor_eq_ok_iff.2 ⟨h.factor1, h.whole⟩]
    rw [checkFactor_eq_ok_iff.2 ⟨h.factor2, h.whole⟩]
    exact last_guard_eq_ok_iff.2 (not_or.2 ⟨Nat.not_le.2 h.long, Nat.not_le.2 h.below⟩)

theorem fits_of_sign {message signature : List UInt8} (h : key.sign message = .ok signature) : key.Fits := by
  obtain ⟨_, hsize, _⟩ := Outcome.bind_eq_ok.1 h
  exact checkSize_eq_ok_iff.1 hsize

/-- What a key signs, its public half accepts. -/
theorem verifies_of_sign {key : PrivateKey} {message signature : List UInt8}
    (h : key.sign message = .ok signature) : key.publicKey.Verifies message signature := by
  have hfits := fits_of_sign h
  obtain ⟨_, _, hsigned⟩ := Outcome.bind_eq_ok.1 h
  simp only at hsigned
  split at hsigned
  · rename_i hpower
    cases hsigned
    have hbelow := key.privatePower_lt (paddedDigest (Unsigned.byteLength key.modulus) message)
    have hvalue := Unsigned.ofBytes_toBytes (Nat.lt_trans hbelow (Unsigned.lt_pow_byteLength key.modulus))
    rw [Modular.power_eq] at hpower
    refine ⟨⟨hfits.wide, Nat.le_trans hfits.narrow (by decide)⟩, Unsigned.length_toBytes _ _, ?_, ?_, ?_⟩
    · rw [hvalue]
      refine Nat.pos_of_ne_zero fun hzero => ?_
      have hexponent : key.publicExponent ≠ 0 :=
        Nat.ne_of_gt (Nat.lt_of_lt_of_le Nat.zero_lt_two key.consistent.2.2.1)
      have hpadded := paddedDigest_pos (Unsigned.byteLength key.modulus) message
      simp [hzero, hexponent] at hpower
      omega
    · rw [hvalue]
      exact hbelow
    · rw [hvalue]
      exact hpower
  · contradiction

end PrivateKey

end Rsa

end TokenAuthority
