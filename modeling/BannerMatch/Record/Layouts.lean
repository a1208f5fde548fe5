import BannerMatch.Record.Basic
import BannerMatch.Service

/-!
# The layouts of rules and services
-/

namespace BannerMatch

/-- The fields of a rule. -/
def Rule.layout : Layout Rule := [
  { name := "id", slot := .text (·.id) fun v r => { r with id := v } },
  { name := "service", slot := .text (·.service) fun v r => { r with service := v } },
  { name := "pattern", slot := .text (·.pattern) fun v r => { r with pattern := v } },
  { name := "product", slot := .text (·.product) fun v r => { r with product := v } },
  { name := "version", slot := .text (·.version) fun v r => { r with version := v } },
  { name := "info", slot := .text (·.info) fun v r => { r with info := v } },
  { name := "hostname", slot := .text (·.hostname) fun v r => { r with hostname := v } },
  { name := "os", slot := .text (·.os) fun v r => { r with os := v } },
  { name := "device_type", slot := .text (·.deviceType) fun v r => { r with deviceType := v } },
  { name := "cpe", slot := .text (·.cpe) fun v r => { r with cpe := v } },
  { name := "confidence", slot := .byte (·.confidence) fun v r => { r with confidence := v } },
  { name := "description", slot := .text (·.description) fun v r => { r with description := v } },
  { name := "author", slot := .text (·.author) fun v r => { r with author := v } },
  { name := "create_time", slot := .text (·.createTime) fun v r => { r with createTime := v } }]

/-- The fields of a rule as a user writes it. -/
def SimpleRule.layout : Layout SimpleRule := [
  { name := "service", slot := .text (·.service) fun v r => { r with service := v } },
  { name := "pattern", slot := .text (·.pattern) fun v r => { r with pattern := v } },
  { name := "product", slot := .text (·.product) fun v r => { r with product := v } },
  { name := "version", slot := .text (·.version) fun v r => { r with version := v } },
  { name := "description", slot := .text (·.description) fun v r => { r with description := v } },
  { name := "confidence", slot := .byte (·.confidence) fun v r => { r with confidence := v } }]

/-- The fields of a rule set. -/
def RuleSet.layout : Layout RuleSet := [
  { name := "version", slot := .text (·.version) fun v s => { s with version := v } },
  { name := "description", slot := .text (·.description) fun v s => { s with description := v } },
  { name := "author", slot := .text (·.author) fun v s => { s with author := v } },
  { name := "rules", slot := .rules (·.rules) fun v s => { s with rules := v } }]

/-- A service of which nothing is known. -/
def Service.blank : Service where
  name := ""
  product := ""
  confidence := 0
  ruleId := ""
  matchedText := ""

/-- The fields of a service; those that are often empty are left out when they are. -/
def Service.layout : Layout Service := [
  { name := "name", isRequired := true,
    slot := .text (·.name) fun v s => { s with name := v } },
  { name := "product", isRequired := true,
    slot := .text (·.product) fun v s => { s with product := v } },
  { name := "version", omitsEmpty := true,
    slot := .text (·.version) fun v s => { s with version := v } },
  { name := "info", omitsEmpty := true,
    slot := .text (·.info) fun v s => { s with info := v } },
  { name := "hostname", omitsEmpty := true,
    slot := .text (·.hostname) fun v s => { s with hostname := v } },
  { name := "os", omitsEmpty := true,
    slot := .text (·.os) fun v s => { s with os := v } },
  { name := "device_type", omitsEmpty := true,
    slot := .text (·.deviceType) fun v s => { s with deviceType := v } },
  { name := "cpe", omitsEmpty := true,
    slot := .text (·.cpe) fun v s => { s with cpe := v } },
  { name := "confidence", isRequired := true,
    slot := .byte (·.confidence) fun v s => { s with confidence := v } },
  { name := "rule_id", isRequired := true,
    slot := .text (·.ruleId) fun v s => { s with ruleId := v } },
  { name := "matched_text", isRequired := true,
    slot := .text (·.matchedText) fun v s => { s with matchedText := v } }]

end BannerMatch
