import BannerMatch.Json.Reader
import BannerMatch.Json.Value
import BannerMatch.Record.Layouts

/-!
# Rules and services in JSON

Rules, rule sets and services are written as objects with all their fields in order, except that a
service leaves out what is not known.
-/

namespace BannerMatch

namespace Json

/-- A reader of no value. -/
def readNothing {α : Type} : Reader α := fun cs => .error (rejection (skipBlank cs))

/-- Reads a rule. -/
def readRule : Reader Rule := readRecord readNothing Rule.layout {}

/-- Reads a rule as a user writes it. -/
def readSimpleRule : Reader SimpleRule := readRecord readNothing SimpleRule.layout {}

/-- Reads a rule set. -/
def readRuleSet : Reader RuleSet := readRecord (readList readRule) RuleSet.layout {}

/-- Reads a service. -/
def readService : Reader Service := readRecord readNothing Service.layout .blank

/-- The value of a field. -/
def Slot.value {α : Type} (rule : Rule → Value) (slot : Slot α) (a : α) : Value :=
  match slot with
  | .text get _ => .text (get a)
  | .byte get _ => .number (toString (get a))
  | .rules get _ => .list ((get a).map rule)

/-- The object of a record; `rule` gives the values of rules in it. -/
def recordValue {α : Type} (rule : Rule → Value) (layout : Layout α) (a : α) : Value :=
  .object ((layout.filter fun f => !f.isOmitted a).map fun f => (f.name, Slot.value rule f.slot a))

end Json

open Json

/-- The JSON value of a rule. -/
def Rule.toJson (r : Rule) : Value := recordValue (fun _ => .null) Rule.layout r

/-- The JSON value of a rule set. -/
def RuleSet.toJson (s : RuleSet) : Value := recordValue Rule.toJson RuleSet.layout s

/-- The JSON value of a service. -/
def Service.toJson (s : Service) : Value := recordValue (fun _ => .null) Service.layout s

/-- A rule set as a JSON text, on several lines or on one. -/
def RuleSet.jsonText (s : RuleSet) (pretty : Bool) : List Char :=
  if pretty then s.toJson.pretty 0 else s.toJson.compact

/-- The rule set that a JSON text holds. -/
def RuleSet.ofJsonText (cs : List Char) : Except Fault RuleSet := readText readRuleSet cs

/-- A service as a JSON text. -/
def Service.jsonText (s : Service) : List Char := s.toJson.compact

/-- The service that a JSON text holds. -/
def Service.ofJsonText (cs : List Char) : Except Fault Service := readText readService cs

end BannerMatch
