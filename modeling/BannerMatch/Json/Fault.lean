/-!
# Faults of JSON texts
-/

namespace BannerMatch.Json

/-- Why a text cannot be read. The fault that comes first in the text counts. -/
inductive Fault
  /-- The text is not JSON. -/
  | malformed
  /-- The text is JSON so far, but not a value of the kind that is asked for. -/
  | unsuitable
  /-- The text ends too early. -/
  | truncated
deriving DecidableEq, Repr

/-- A word for the fault. -/
def Fault.message : Fault → String
  | .malformed => "malformed text"
  | .unsuitable => "unsuitable value"
  | .truncated => "unexpected end of text"

end BannerMatch.Json
