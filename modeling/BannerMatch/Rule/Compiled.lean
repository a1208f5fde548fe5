import BannerMatch.Rule.Basic
import BannerMatch.Rule.IdSource

/-!
# Compiled rules

* `Rule.complete` fills in what a rule leaves open: confidence, identifier and creation time.
* `Rule.compile` completes a rule and compiles its pattern. A rule whose pattern cannot be compiled
  is kept, but is inert: it takes no part in matching.
* `compileBatch` compiles a list of rules, leaves out those whose fields are not valid, and reports
  both kinds. Identifiers that it assigns differ from every one given in the list.
-/

namespace BannerMatch

/-- A pattern that could not be compiled, and why. -/
structure CompileFault where
  pattern : String
  fault : PatternFault
deriving DecidableEq, Repr

/-- The word for the fault. -/
def CompileFault.message (f : CompileFault) : String := f.fault.message

/-- The fault with its pattern. -/
def CompileFault.display (f : CompileFault) : String :=
  "cannot compile `" ++ f.pattern ++ "`: " ++ f.message

/-- A rule with its compiled pattern. -/
structure CompiledRule where
  rule : Rule
  pattern : Except PatternFault Pattern

namespace CompiledRule

/-- Whether the rule takes part in matching. -/
def isActive (c : CompiledRule) : Bool :=
  match c.pattern with
  | .ok _ => true
  | .error _ => false

/-- The identifier of the rule. -/
def id (c : CompiledRule) : String := c.rule.id

/-- Why the rule is inert, if it is. -/
def fault? (c : CompiledRule) : Option CompileFault :=
  match c.pattern with
  | .ok _ => none
  | .error f => some ⟨c.rule.pattern, f⟩

end CompiledRule

/-- What rules get that leave something open. -/
structure RuleDefaults where
  confidence : UInt8 := 80
  /-- The creation time. -/
  now : String
deriving DecidableEq, Repr

/-- Fills in confidence, identifier and creation time where they are not given. -/
def Rule.complete (r : Rule) (defaults : RuleDefaults) (taken : List String) (ids : IdSource) :
    Rule × IdSource :=
  let confidence := if r.confidence = 0 then defaults.confidence else r.confidence
  let createTime := if r.createTime.isEmpty then defaults.now else r.createTime
  let drawn := if r.hasBlankId then ids.drawUnused taken else (r.id, ids)
  ({ r with id := drawn.1, confidence := confidence, createTime := createTime }, drawn.2)

/-- Completes a rule and compiles its pattern. -/
def Rule.compile (r : Rule) (defaults : RuleDefaults) (taken : List String) (ids : IdSource) :
    CompiledRule × IdSource :=
  let completed := r.complete defaults taken ids
  (⟨completed.1, Pattern.compile completed.1.pattern⟩, completed.2)

/-- What is wrong with a rule of a batch. -/
inductive RuleIssue
  /-- The rule is left out. -/
  | invalid (fault : RuleFault)
  /-- The rule is kept, but inert. -/
  | inert (fault : CompileFault)
deriving DecidableEq, Repr

/-- A remark on a rule of a batch. -/
structure Diagnostic where
  ruleId : String
  issue : RuleIssue
deriving DecidableEq, Repr

/-- The compiled rules of a batch with the remarks on it. -/
structure Batch where
  rules : List CompiledRule := []
  diagnostics : List Diagnostic := []

/-- Puts a rule in front of a batch. -/
def Batch.keep (c : CompiledRule) (b : Batch) : Batch where
  rules := c :: b.rules
  diagnostics := match c.fault? with
    | some f => ⟨c.id, .inert f⟩ :: b.diagnostics
    | none => b.diagnostics

/-- Notes in front of a batch that a rule was left out. -/
def Batch.skip (r : Rule) (f : RuleFault) (b : Batch) : Batch :=
  { b with diagnostics := ⟨r.id, .invalid f⟩ :: b.diagnostics }

/-- Compiles rules one after the other; `taken` are the identifiers in use. -/
def compileFrom (defaults : RuleDefaults) (taken : List String) (ids : IdSource) :
    List Rule → Batch × IdSource
  | [] => ({}, ids)
  | r :: rest =>
      match r.checkFields with
      | .error f =>
          let others := compileFrom defaults taken ids rest
          (others.1.skip r f, others.2)
      | .ok () =>
          let compiled := r.compile defaults taken ids
          let others := compileFrom defaults (compiled.1.id :: taken) compiled.2 rest
          (others.1.keep compiled.1, others.2)

/-- The identifiers that the rules of a batch give themselves. -/
def givenIds (rules : List Rule) : List String :=
  (rules.filter fun r => !r.hasBlankId).map Rule.id

/-- Compiles a batch of rules. -/
def compileBatch (defaults : RuleDefaults) (ids : IdSource) (rules : List Rule) :
    Batch × IdSource :=
  compileFrom defaults (givenIds rules) ids rules

end BannerMatch
