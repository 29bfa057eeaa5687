import Mathlib.Algebra.Order.Group.Unbundled.Int

/-!
# Durations and time points

Durations count whole ticks in a 64-bit signed integer.  A time point of the system clock counts
nanoseconds since the epoch, so a conversion from seconds multiplies by `10 ^ 9` and wraps when
the product leaves the range of the counter.
-/

namespace Chrono

/-- A duration in whole seconds. -/
abbrev Seconds := Int64

/-- A time point of the system clock, in nanoseconds since the epoch. -/
structure TimePoint where
  sinceEpoch : Int64
  deriving DecidableEq, Repr, Inhabited

namespace TimePoint

/-- The epoch itself, which is the value of a default constructed time point. -/
def epoch : TimePoint := ⟨0⟩

/-- `time_point(seconds(count))`. -/
def ofSeconds (count : Seconds) : TimePoint := ⟨count * 1000000000⟩

/-- `duration_cast<seconds>`, which truncates. -/
def castSeconds (t : TimePoint) : Seconds := t.sinceEpoch / 1000000000

/-- `ceil<seconds>`: the truncated duration, and one second more when that lost something. -/
def ceilSeconds (t : TimePoint) : Seconds :=
  if t.castSeconds * 1000000000 < t.sinceEpoch then t.castSeconds + 1 else t.castSeconds

end TimePoint

end Chrono
