import BannerMatch.Pattern.Basic

/-!
# Rules

A rule names a service, the pattern that recognizes its banners and templates for the fields of the
result. An empty field is one that the rule does not give.

* `Rule.checkFields` looks at the fields alone, `Rule.check` also at the pattern.
* `SimpleRule` has the fields that a user writes; `SimpleRule.toRule` fills in the author.
* `RuleSet` is what is exported and imported.
-/

namespace BannerMatch

/-- A rule. -/
structure Rule where
  id : String := ""
  service : String := ""
  pattern : String := ""
  product : String := ""
  version : String := ""
  info : String := ""
  hostname : String := ""
  os : String := ""
  deviceType : String := ""
  cpe : String := ""
  /-- How sure a match makes, in percent; `0` asks for the default. -/
  confidence : UInt8 := 0
  description : String := ""
  author : String := ""
  createTime : String := ""
deriving DecidableEq, Repr, Inhabited

/-- A rule as a user writes it. -/
structure SimpleRule where
  service : String := ""
  pattern : String := ""
  product : String := ""
  version : String := ""
  description : String := ""
  confidence : UInt8 := 0
deriving DecidableEq, Repr, Inhabited

/-- The rule with the user as its author. -/
def SimpleRule.toRule (r : SimpleRule) : Rule where
  service := r.service
  pattern := r.pattern
  product := r.product
  version := r.version
  description := r.description
  confidence := r.confidence
  author := "user"

/-- Rules with a heading. -/
structure RuleSet where
  version : String := ""
  description : String := ""
  author : String := ""
  rules : List Rule := []
deriving DecidableEq, Repr, Inhabited

/-- Why a rule is not valid. -/
inductive RuleFault
  | emptyService
  | emptyPattern
  | confidenceOutOfRange (confidence : UInt8)
  | invalidPattern (fault : PatternFault)
deriving DecidableEq, Repr

/-- The text of a fault. -/
def RuleFault.message : RuleFault → String
  | .emptyService => "service must not be empty"
  | .emptyPattern => "pattern must not be empty"
  | .confidenceOutOfRange n => s!"confidence {n} is outside 0-100"
  | .invalidPattern f => "invalid pattern: " ++ f.message

/-- Whether an identifier counts as not given. -/
def Rule.hasBlankId (r : Rule) : Bool := Text.isAllBlank r.id

/-- The first fault of the fields: the service must not be blank, the pattern not empty, and the
confidence at most `100`. -/
def Rule.checkFields (r : Rule) : Except RuleFault Unit :=
  if Text.isAllBlank r.service then .error .emptyService
  else if r.pattern.isEmpty then .error .emptyPattern
  else if 100 < r.confidence then .error (.confidenceOutOfRange r.confidence)
  else .ok ()

/-- The first fault of the rule: of its fields, else of its pattern. -/
def Rule.check (r : Rule) : Except RuleFault Unit :=
  match r.checkFields with
  | .error f => .error f
  | .ok () => match Pattern.compile r.pattern with
    | .error f => .error (.invalidPattern f)
    | .ok _ => .ok ()

end BannerMatch
