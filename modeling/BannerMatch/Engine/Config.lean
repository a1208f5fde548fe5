import BannerMatch.Probe.Options

/-!
# Configuration

`Config` has the standard configuration as its defaults. A `Setting` changes one part of it and
keeps that part in range.
-/

namespace BannerMatch

/-- The configuration of an engine; times are in milliseconds. -/
structure Config where
  cacheEnabled : Bool := true
  /-- The greatest number of cached results. -/
  cacheSize : Nat := 1000
  /-- How long a cached result lives. -/
  cacheTtl : Nat := 3600000
  /-- The time between two sweeps of the cache. -/
  sweepInterval : Nat := 60000
  /-- How many banners of a batch are matched at the same time. -/
  maxConcurrency : Nat := 50
  /-- The confidence of rules that do not give one. -/
  defaultConfidence : UInt8 := 80
  /-- Whether CPE names are synthesized for rules that do not give one. -/
  synthesizeCpe : Bool := true
  probes : Probe.Options := {}
deriving DecidableEq, Repr, Inhabited

/-- A change of one part of a configuration. -/
inductive Setting
  | cacheEnabled (on : Bool)
  | cacheSize (n : Nat)
  | cacheTtl (milliseconds : Nat)
  | sweepInterval (milliseconds : Nat)
  | maxConcurrency (n : Nat)
  | defaultConfidence (percent : UInt8)
  | synthesizeCpe (on : Bool)
  | probes (options : Probe.Options)
deriving DecidableEq, Repr

/-- The configuration after a change: there is room for one banner at least, and the default
confidence is at most `100`. -/
def Config.set (c : Config) : Setting → Config
  | .cacheEnabled on => { c with cacheEnabled := on }
  | .cacheSize n => { c with cacheSize := n }
  | .cacheTtl ms => { c with cacheTtl := ms }
  | .sweepInterval ms => { c with sweepInterval := ms }
  | .maxConcurrency n => { c with maxConcurrency := max n 1 }
  | .defaultConfidence p => { c with defaultConfidence := min p 100 }
  | .synthesizeCpe on => { c with synthesizeCpe := on }
  | .probes options => { c with probes := options }

/-- The number of nanoseconds in a millisecond. -/
def nanoseconds : Nat := 1000000

/-- The time between two sweeps in nanoseconds: at least a millisecond. -/
def Config.sweepPeriod (c : Config) : Nat := max c.sweepInterval 1 * nanoseconds

/-- How many tasks of a batch can be under way at the same time: at least one. -/
def Config.permits (c : Config) : Nat := max c.maxConcurrency 1

/-- The standard configuration after changes. -/
def Config.ofSettings (settings : List Setting) : Config := settings.foldl Config.set {}

end BannerMatch
