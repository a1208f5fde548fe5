import BannerMatch.Cpe
import BannerMatch.Ranking
import BannerMatch.Rule.Compiled
import BannerMatch.Template

/-!
# Analysis

Every active rule is tried on a text. `CompiledRule.identify?` is the answer of a single rule,
`analyze` collects the answers of all of them and ranks them.
-/

namespace BannerMatch

/-- A template with its references replaced by the groups of a match. -/
def PatternMatch.fill (m : PatternMatch) (template : String) : String :=
  String.ofList (Template.resolve template.toList m.group?)

/-- The service that a match of the rule's pattern identifies. A product that comes out empty is
replaced by the name of the service, and an empty CPE name by a synthesized one if asked for. -/
def Rule.serviceOf (r : Rule) (m : PatternMatch) (synthesizeCpe : Bool) : Service :=
  let product := m.fill r.product
  let version := m.fill r.version
  let cpe := m.fill r.cpe
  { name := r.service
    product := if product.isEmpty then r.service else product
    version := version
    info := m.fill r.info
    hostname := m.fill r.hostname
    os := m.fill r.os
    deviceType := m.fill r.deviceType
    cpe :=
      if cpe.isEmpty && synthesizeCpe then
        String.ofList (Cpe.synthesize product.toList version.toList)
      else cpe
    confidence := r.confidence
    ruleId := r.id
    matchedText := String.ofList m.matched }

/-- The service that a rule identifies in a text, if it is active and its pattern matches. -/
def CompiledRule.identify? (c : CompiledRule) (text : String) (synthesizeCpe : Bool) :
    Option Service :=
  match c.pattern with
  | .error _ => none
  | .ok p => (p.find? text).map fun m => c.rule.serviceOf m synthesizeCpe

/-- What an analysis gives. -/
structure Analysis where
  /-- The services, ranked. -/
  services : List Service := []
  /-- The number of rules that were tried. -/
  evaluations : Nat := 0
deriving DecidableEq, Repr

/-- Tries the rules on a text; in an empty text there is nothing to find. -/
def analyze (rules : List CompiledRule) (text : String) (synthesizeCpe : Bool) : Analysis :=
  if text.isEmpty then {}
  else
    { services := rank (rules.filterMap fun c => c.identify? text synthesizeCpe)
      evaluations := (rules.filter CompiledRule.isActive).length }

end BannerMatch
