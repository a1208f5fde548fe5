import BannerMatch.Cache.Basic
import BannerMatch.Failure

/-!
# Sweeping in the background

A sweeper removes expired entries again and again, with a period in between. Its scheduler wakes it
up now and then, and a wake-up that comes before the period is over is passed over. A sweeper that
finds its cache no longer in use ends.
-/

namespace BannerMatch.Cache

/-- The instants at which a sweeper goes on when it is woken up at the given ones: none before
`next`, and none before a period has passed since the last one. -/
def ticks (period next : Nat) : List Nat → List Nat
  | [] => []
  | now :: rest =>
      if now < next then ticks period next rest else now :: ticks period (now + period) rest

/-- Sweeps a cache at some instants as long as it is in use, and tells whether it was found to be
out of use. -/
def sweepWhile (c : Cache) (inUse : Nat → Bool) : List Nat → Bool × Cache
  | [] => (false, c)
  | now :: rest => if inUse now then (c.sweep now).2.sweepWhile inUse rest else (true, c)

/-- Whether a sweeper has ended, and the cache after it was woken up at the given instants; without
a scheduler there are none, and no sweeper can be started. -/
def runSweeper (c : Cache) (period : Nat) (inUse : Nat → Bool) (wakeups : Option (List Nat)) :
    Except Failure (Bool × Cache) :=
  match wakeups with
  | none => .error .noScheduler
  | some instants => .ok (c.sweepWhile inUse (ticks period 0 instants))

end BannerMatch.Cache
