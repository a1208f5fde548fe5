/-!
# Confidences of imported rules
-/

namespace BannerMatch.Probe

/-- How sure the rules of a probe file make. -/
structure Options where
  /-- The confidence of a match line, in percent. -/
  hard : UInt8 := 85
  /-- What is taken off for a softmatch line. -/
  penalty : UInt8 := 20
  /-- The least confidence of a softmatch line. -/
  floor : UInt8 := 50
deriving DecidableEq, Repr, Inhabited

/-- The confidence of a match line, at most `100`. -/
def Options.hardConfidence (o : Options) : UInt8 := min o.hard 100

/-- The confidence of a softmatch line: reduced, not below the floor, and at most `100`. -/
def Options.softConfidence (o : Options) : UInt8 :=
  let reduced := if o.penalty ≤ o.hard then o.hard - o.penalty else 0
  min (max reduced o.floor) 100

end BannerMatch.Probe
