/-!
# Durations

A signed length of time in nanoseconds. Its range is that of a 64-bit count of milliseconds, taken
symmetrically around zero.
-/

namespace TokenAuthority

/-- The nanoseconds of one second. -/
def nanosPerSecond : Nat := 1000000000

/-- The longest duration, in nanoseconds. -/
def Duration.limit : Int := 9223372036854775807 * 1000000

/-- A signed length of time. -/
structure Duration where
  nanoseconds : Int
  lower : -Duration.limit ≤ nanoseconds
  upper : nanoseconds ≤ Duration.limit
  deriving DecidableEq, Repr

namespace Duration

/-- The duration of so many nanoseconds, when it is in range. -/
def ofNanoseconds? (n : Int) : Option Duration :=
  if h : -limit ≤ n ∧ n ≤ limit then some ⟨n, h.1, h.2⟩ else none

/-- The longest duration. -/
def max : Duration := ⟨limit, by decide, by decide⟩

/-- The most negative duration. -/
def min : Duration := ⟨-limit, by decide, by decide⟩

/-- The whole seconds of a duration, rounded toward zero. -/
def wholeSeconds (d : Duration) : Int :=
  d.nanoseconds.tdiv nanosPerSecond

/-- The nanoseconds beyond the whole seconds, with the sign of the duration. -/
def subsecond (d : Duration) : Int :=
  d.nanoseconds.tmod nanosPerSecond

end Duration

end TokenAuthority
