import Mathlib.Data.Int.Basic
import TokenAuthority.Time.Instant

/-!
# Instants on a scale without leap seconds

Outside leap seconds an instant is as good as the number of nanoseconds since 1970, and adding a duration to it is
adding these numbers, as long as the sum is in range. Main statements: `Instant.add?_eq_some_iff`,
`Instant.add?_eq_none_iff`, `Instant.elapsed_startOfSecond`.
-/

namespace TokenAuthority.Instant

variable {t e a b c : Instant} {d : Duration}

/-! ## Order -/

theorem lt_iff : a < b ↔ a.seconds < b.seconds ∨ (a.seconds = b.seconds ∧ a.nanoseconds < b.nanoseconds) := Iff.rfl

theorem lt_of_seconds_lt (h : a.seconds < b.seconds) : a < b := .inl h

theorem lt_of_le_of_lt (hab : a ≤ b) (hbc : b < c) : a < c := by
  have hab' : ¬ b < a := hab
  rw [lt_iff] at *
  omega

/-! ## Elapsed nanoseconds -/

/-- The nanoseconds from the start of 1970 to an instant, those of leap seconds left out. -/
def elapsed (t : Instant) : Int := t.seconds * nanosPerSecond + t.nanoseconds

/-- The nanoseconds since 1970 for which there is an instant. -/
def InRange (n : Int) : Prop := -8334601228800000000000 ≤ n ∧ n ≤ 8210266876799999999999

/-- The range is decided by its two bounds. -/
instance (n : Int) : Decidable (InRange n) := by
  unfold InRange; infer_instance

theorem nanoseconds_lt_of_not_leap (h : t.isLeap = false) : t.nanoseconds < nanosPerSecond := by
  simpa [isLeap] using h

theorem inRange_elapsed (h : t.isLeap = false) : InRange t.elapsed := by
  have hfirst := t.first_le
  have hlast := t.le_last
  have hnanos := nanoseconds_lt_of_not_leap h
  simp only [InRange, elapsed, firstSecond, lastSecond, nanosPerSecond] at *
  omega

theorem elapsed_injective (ha : a.isLeap = false) (hb : b.isLeap = false) (h : a.elapsed = b.elapsed) : a = b := by
  have hanos := nanoseconds_lt_of_not_leap ha
  have hbnos := nanoseconds_lt_of_not_leap hb
  obtain ⟨aseconds, ananos, _, _, _, _⟩ := a
  obtain ⟨bseconds, bnanos, _, _, _, _⟩ := b
  simp only [elapsed, nanosPerSecond] at *
  obtain ⟨rfl, rfl⟩ : aseconds = bseconds ∧ ananos = bnanos := by omega
  rfl

/-! ## Instants from numbers -/

theorem eq_of_ofParts? {seconds : Int} {nanoseconds : Nat} (h : ofParts? seconds nanoseconds = some t) :
    t.seconds = seconds ∧ t.nanoseconds = nanoseconds := by
  unfold ofParts? at h
  split at h
  · cases h
    exact ⟨rfl, rfl⟩
  · cases h

theorem exists_ofNanoseconds? {seconds n : Int} (h : InRange (seconds * nanosPerSecond + n)) :
    ∃ t, ofNanoseconds? seconds n = some t := by
  have hrep : Representable ((seconds * nanosPerSecond + n) / nanosPerSecond)
      ((seconds * nanosPerSecond + n) % nanosPerSecond).toNat := by
    generalize seconds * (nanosPerSecond : Int) + n = total at *
    simp only [Representable, InRange, firstSecond, lastSecond, nanosPerSecond] at *
    omega
  exact ⟨_, dif_pos hrep⟩

/-- The instant of a number of nanoseconds. -/
theorem ofNanoseconds?_eq_some_iff {seconds n : Int} :
    ofNanoseconds? seconds n = some t ↔ t.isLeap = false ∧ t.elapsed = seconds * nanosPerSecond + n := by
  have hexact {t : Instant} (h : ofNanoseconds? seconds n = some t) :
      t.isLeap = false ∧ t.elapsed = seconds * nanosPerSecond + n := by
    obtain ⟨hseconds, hnanos⟩ := eq_of_ofParts? h
    have hlt := Int.emod_lt_of_pos (seconds * nanosPerSecond + n) (by decide : (0 : Int) < nanosPerSecond)
    have hnonneg := Int.emod_nonneg (seconds * nanosPerSecond + n) (by decide : (nanosPerSecond : Int) ≠ 0)
    constructor
    · simp only [isLeap, hnanos, decide_eq_false_iff_not]
      omega
    · rw [elapsed, hseconds, hnanos, Int.toNat_of_nonneg hnonneg]
      exact Int.ediv_mul_add_emod _ _
  constructor
  · exact hexact
  · rintro ⟨hleap, helapsed⟩
    obtain ⟨t', ht'⟩ := exists_ofNanoseconds? (helapsed ▸ inRange_elapsed hleap)
    obtain ⟨hleap', helapsed'⟩ := hexact ht'
    rw [ht', elapsed_injective hleap' hleap (helapsed'.trans helapsed.symm)]

theorem ofNanoseconds?_eq_none_iff {seconds n : Int} :
    ofNanoseconds? seconds n = none ↔ ¬ InRange (seconds * nanosPerSecond + n) := by
  constructor
  · intro h hrange
    obtain ⟨t, ht⟩ := exists_ofNanoseconds? hrange
    rw [h] at ht
    cases ht
  · intro hrange
    refine Option.eq_none_iff_forall_ne_some.2 fun t ht => hrange ?_
    obtain ⟨hleap, helapsed⟩ := ofNanoseconds?_eq_some_iff.1 ht
    exact helapsed ▸ inRange_elapsed hleap

/-! ## The start of a second -/

theorem nanoseconds_startOfSecond (h : t.isLeap = false) : t.startOfSecond.nanoseconds = 0 := by
  simp [startOfSecond, h]

theorem isLeap_startOfSecond (t : Instant) : t.startOfSecond.isLeap = t.isLeap := by
  cases h : t.isLeap with
  | true =>
      have hstart : t.startOfSecond.nanoseconds = nanosPerSecond := by simp [startOfSecond, h]
      simp [isLeap, hstart]
  | false =>
      rw [isLeap, nanoseconds_startOfSecond h]
      rfl

theorem elapsed_startOfSecond (h : t.isLeap = false) :
    t.startOfSecond.elapsed = t.elapsed / nanosPerSecond * nanosPerSecond := by
  have hnanos := nanoseconds_lt_of_not_leap h
  have hseconds : t.startOfSecond.seconds = t.seconds := rfl
  rw [elapsed, elapsed, hseconds, nanoseconds_startOfSecond h]
  simp only [nanosPerSecond] at *
  omega

/-! ## Later instants -/

theorem add?_of_not_leap (h : t.isLeap = false) (d : Duration) :
    t.add? d = ofNanoseconds? t.seconds (t.nanoseconds + d.nanoseconds) := by
  rw [add?, h]
  rfl

theorem add?_eq_some_iff (h : t.isLeap = false) :
    t.add? d = some e ↔ e.isLeap = false ∧ e.elapsed = t.elapsed + d.nanoseconds := by
  rw [add?_of_not_leap h, ofNanoseconds?_eq_some_iff, elapsed, elapsed, Int.add_assoc]

theorem add?_eq_none_iff (h : t.isLeap = false) : t.add? d = none ↔ ¬ InRange (t.elapsed + d.nanoseconds) := by
  rw [add?_of_not_leap h, ofNanoseconds?_eq_none_iff, elapsed, Int.add_assoc]

theorem add?_startOfSecond_of_not_leap (h : t.isLeap = false) :
    t.startOfSecond.add? d = ofNanoseconds? t.seconds d.nanoseconds := by
  rw [add?_of_not_leap ((isLeap_startOfSecond t).trans h), nanoseconds_startOfSecond h, Int.natCast_zero, Int.zero_add]
  rfl

/-- The fraction of a second in an expiry is that of the lifetime. -/
theorem nanoseconds_add?_startOfSecond (hleap : t.isLeap = false) (h : t.startOfSecond.add? d = some e) :
    (e.nanoseconds : Int) = d.nanoseconds % nanosPerSecond := by
  rw [add?_startOfSecond_of_not_leap hleap] at h
  have hne : (nanosPerSecond : Int) ≠ 0 := by decide
  rw [(eq_of_ofParts? h).2, Int.toNat_of_nonneg (Int.emod_nonneg _ hne), Int.add_comm, Int.add_mul_emod_self_right]

/-! ## Whole seconds later -/

section

variable {seconds k : Int} {n : Nat}

theorem nanoseconds_of_ofNanoseconds? (h : ofNanoseconds? seconds (k * nanosPerSecond) = some t) :
    t.nanoseconds = 0 := by
  have hwhole : (seconds * nanosPerSecond + k * nanosPerSecond) % (nanosPerSecond : Int) = 0 := by
    rw [← Int.add_mul, Int.mul_emod_left]
  rw [(eq_of_ofParts? h).2, hwhole]
  rfl

theorem seconds_of_ofNanoseconds? (h : ofNanoseconds? seconds (k * nanosPerSecond) = some t) :
    t.seconds = seconds + k := by
  rw [(eq_of_ofParts? h).1, ← Int.add_mul, Int.mul_ediv_cancel _ (by decide)]

/-- So many whole seconds after the start of a second is the start of another, also where the first is a leap
second. -/
theorem add?_startOfSecond (t : Instant) (hn : 0 < n) (hd : d.nanoseconds = n * nanosPerSecond) :
    t.startOfSecond.add? d = ofNanoseconds? t.seconds (n * nanosPerSecond) := by
  cases hleap : t.isLeap with
  | false => rw [add?_startOfSecond_of_not_leap hleap, hd]
  | true =>
      have hseconds : 0 < d.wholeSeconds := by
        rw [Duration.wholeSeconds, hd, Int.mul_tdiv_cancel _ (by decide)]
        exact Int.natCast_pos.2 hn
      have hstart : t.startOfSecond.nanoseconds = nanosPerSecond := by simp [startOfSecond, hleap]
      have hstill : t.startOfSecond.isLeap = true := (isLeap_startOfSecond t).trans hleap
      simp only [add?, hstill, if_true, hseconds, true_or, hstart, hd, Int.sub_self, Int.zero_add]
      rfl

theorem nanoseconds_of_add? (hn : 0 < n) (hd : d.nanoseconds = n * nanosPerSecond)
    (h : t.startOfSecond.add? d = some e) : e.nanoseconds = 0 :=
  nanoseconds_of_ofNanoseconds? ((add?_startOfSecond t hn hd).symm.trans h)

theorem seconds_of_add? (hn : 0 < n) (hd : d.nanoseconds = n * nanosPerSecond)
    (h : t.startOfSecond.add? d = some e) : e.seconds = t.seconds + n :=
  seconds_of_ofNanoseconds? ((add?_startOfSecond t hn hd).symm.trans h)

end

end TokenAuthority.Instant
