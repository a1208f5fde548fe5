/-!
# Breakdowns

An operation that breaks down comes to no answer. The range of the clock is one cause: the time at
which a cached result expires may lie beyond it. The other one is a batch that asks for more permits
than there can be.
-/

namespace BannerMatch

/-- Why an operation broke down. -/
inductive Breakdown
  /-- An instant lies beyond the range of the clock. -/
  | instantOutOfRange
  /-- There cannot be so many permits. -/
  | tooManyPermits
deriving DecidableEq, Repr

/-- The first instant, in nanoseconds, beyond the range of the clock: its seconds have 63 bits. -/
def instantLimit : Nat := 9223372036854775808 * 1000000000

/-- The instant some time after another one, if it is within the range of the clock. -/
def later? (now duration : Nat) : Option Nat :=
  if now + duration < instantLimit then some (now + duration) else none

/-- The greatest number of permits that there can be. -/
def maxPermits : Nat := 2305843009213693951

end BannerMatch
