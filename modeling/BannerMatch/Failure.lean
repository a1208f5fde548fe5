import BannerMatch.Json.Fault
import BannerMatch.Rule.Basic

/-!
# Failures

Why an operation on the rules as a whole was not carried out, or a batch has no results.
-/

namespace BannerMatch

/-- Why an operation failed. -/
inductive Failure
  /-- The rule is not valid. -/
  | invalidRule (fault : RuleFault)
  /-- There is a rule with this identifier already. -/
  | duplicateId (id : String)
  /-- A source could not be read to its end. -/
  | unreadable (reason : String)
  /-- A text is not a rule set in JSON. -/
  | json (fault : Json.Fault)
  /-- Bytes are not a rule set in MessagePack. -/
  | messagePack
  /-- There is no scheduler to run in the background. -/
  | noScheduler
  /-- A task of a batch broke down. -/
  | taskFailed
deriving DecidableEq, Repr

/-- The text of a failure. -/
def Failure.message : Failure → String
  | .invalidRule f => "Rule validation failed: " ++ f.message
  | .duplicateId id => "Invalid input: rule id `" ++ id ++ "` already exists"
  | .unreadable reason => "IO failed: " ++ reason
  | .json f => "JSON parse failed: " ++ f.message
  | .messagePack => "MessagePack decode failed"
  | .noScheduler => "Async task failed: cache sweeper needs a scheduler"
  | .taskFailed => "Async task failed: a task of the batch broke down"

end BannerMatch
