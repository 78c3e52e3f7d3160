import TokenAuthority.Time.Duration

/-!
# Instants

An instant is a count of UTC seconds since 1970 and the nanoseconds beyond it. The last second of a minute
may be followed by a leap second, which is written as 10⁹ nanoseconds or more beyond the 59th second.
-/

namespace TokenAuthority

/-- The first representable second: the first of January of the year −262143. -/
def Instant.firstSecond : Int := -8334601228800

/-- The last representable second: the end of the year 262142. -/
def Instant.lastSecond : Int := 8210266876799

/-- A point in time. -/
structure Instant where
  /-- Whole seconds since the start of 1970, rounded toward the past. -/
  seconds : Int
  /-- Nanoseconds beyond the second; 10⁹ and more lie in a leap second. -/
  nanoseconds : Nat
  first_le : Instant.firstSecond ≤ seconds
  le_last : seconds ≤ Instant.lastSecond
  nanoseconds_lt : nanoseconds < 2 * nanosPerSecond
  leap_at_end : nanosPerSecond ≤ nanoseconds → seconds % 60 = 59
  deriving DecidableEq, Repr

namespace Instant

/-- Whether a second and the nanoseconds beyond it name an instant. -/
def Representable (seconds : Int) (nanoseconds : Nat) : Prop :=
  firstSecond ≤ seconds ∧ seconds ≤ lastSecond ∧ nanoseconds < 2 * nanosPerSecond ∧
    (nanosPerSecond ≤ nanoseconds → seconds % 60 = 59)

instance (seconds : Int) (nanoseconds : Nat) : Decidable (Representable seconds nanoseconds) := by
  unfold Representable; infer_instance

/-- The instant at a second and some nanoseconds beyond it, when there is one. -/
def ofParts? (seconds : Int) (nanoseconds : Nat) : Option Instant :=
  if h : Representable seconds nanoseconds then
    some ⟨seconds, nanoseconds, h.1, h.2.1, h.2.2.1, h.2.2.2⟩
  else none

/-- The instant at a whole second. -/
def ofSeconds? (seconds : Int) : Option Instant :=
  ofParts? seconds 0

/-- Whether an instant lies in a leap second. -/
def isLeap (t : Instant) : Bool :=
  nanosPerSecond ≤ t.nanoseconds

instance : LT Instant :=
  ⟨fun a b => a.seconds < b.seconds ∨ (a.seconds = b.seconds ∧ a.nanoseconds < b.nanoseconds)⟩

instance : LE Instant := ⟨fun a b => ¬ b < a⟩

instance (a b : Instant) : Decidable (a < b) :=
  inferInstanceAs (Decidable (a.seconds < b.seconds ∨ (a.seconds = b.seconds ∧ a.nanoseconds < b.nanoseconds)))

instance (a b : Instant) : Decidable (a ≤ b) :=
  inferInstanceAs (Decidable (¬ b < a))

/-! ## Arithmetic -/

/-- The start of the second an instant lies in; a leap second is a second of its own. -/
def startOfSecond (t : Instant) : Instant where
  seconds := t.seconds
  nanoseconds := if t.isLeap then nanosPerSecond else 0
  first_le := t.first_le
  le_last := t.le_last
  nanoseconds_lt := by split <;> decide
  leap_at_end := by
    intro h
    split at h
    · rename_i hl
      exact t.leap_at_end (by simpa [isLeap] using hl)
    · exact absurd h (by decide)

/-- The instant so many nanoseconds after the start of a second, on a scale without leap seconds. -/
def ofNanoseconds? (seconds nanoseconds : Int) : Option Instant :=
  let total := seconds * nanosPerSecond + nanoseconds
  ofParts? (total / nanosPerSecond) (total % nanosPerSecond).toNat

/-- The instant a duration later, when it is representable. An instant in a leap second stays there under a
step of less than a second that does not pass its end; otherwise the leap second counts as part of the
second it is nearer to in the direction of the step. -/
def add? (t : Instant) (d : Duration) : Option Instant :=
  if t.isLeap then
    let beyond : Int := t.nanoseconds - nanosPerSecond
    if 0 < d.wholeSeconds ∨ (0 < d.subsecond ∧ nanosPerSecond ≤ beyond + d.subsecond) then
      ofNanoseconds? t.seconds (beyond + d.nanoseconds)
    else if d.wholeSeconds < 0 then
      ofNanoseconds? (t.seconds + 1) (beyond + d.nanoseconds)
    else ofParts? t.seconds (t.nanoseconds + d.subsecond).toNat
  else ofNanoseconds? t.seconds (t.nanoseconds + d.nanoseconds)

end Instant

end TokenAuthority
