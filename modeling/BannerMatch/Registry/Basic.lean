import BannerMatch.Cache.Basic
import BannerMatch.Failure
import BannerMatch.Registry.Tally
import BannerMatch.Rule.Compiled

/-!
# The registry of rules

The registry holds the compiled rules in the order in which they came, with the source of their
identifiers and the cache of what they found. Every change of the rules invalidates the cache, so
what the cache gives out was always found by the rules of now.
-/

namespace BannerMatch

/-- The compiled rules with what belongs to them. -/
structure Registry where
  rules : List CompiledRule := []
  /-- When rules were last loaded. -/
  reloadedAt : Option String := none
  cache : Cache
  ids : IdSource := {}
  /-- The confidence of rules that do not give one. -/
  defaultConfidence : UInt8 := 80

/-- What came of loading rules. -/
structure LoadReport where
  /-- The number of rules that were kept. -/
  loaded : Nat
  /-- The number of rules among them that are inert. -/
  inert : Nat
  /-- The number of rules that were left out. -/
  skipped : Nat
  diagnostics : List Diagnostic
deriving DecidableEq, Repr

/-- Whether a remark is about an inert rule. -/
def Diagnostic.isInert (d : Diagnostic) : Bool :=
  match d.issue with
  | .inert _ => true
  | .invalid _ => false

/-- The report on a batch. -/
def Batch.report (b : Batch) : LoadReport where
  loaded := b.rules.length
  inert := (b.diagnostics.filter Diagnostic.isInert).length
  skipped := (b.diagnostics.filter fun d => !d.isInert).length
  diagnostics := b.diagnostics

/-- Numbers of rules. -/
structure RuleStats where
  total : Nat
  active : Nat
  inert : Nat
  byService : Tally
  byAuthor : Tally
deriving DecidableEq, Repr

/-- The author under whose name a rule is counted. -/
def Rule.countedAuthor (r : Rule) : String := if r.author.isEmpty then "unknown" else r.author

namespace Registry

/-- What rules get that leave something open; `now` is the time of day. -/
def defaults (r : Registry) (now : String) : RuleDefaults := ⟨r.defaultConfidence, now⟩

/-- Replaces all rules. -/
def load (r : Registry) (now : String) (rules : List Rule) : LoadReport × Registry :=
  let compiled := compileBatch (r.defaults now) r.ids rules
  (compiled.1.report,
    { r with
      rules := compiled.1.rules
      reloadedAt := some now
      cache := r.cache.invalidate
      ids := compiled.2 })

/-- The identifiers in use. -/
def usedIds (r : Registry) : List String := r.rules.map CompiledRule.id

/-- Whether an identifier is in use. -/
def has (r : Registry) (id : String) : Bool := r.usedIds.contains id

/-- Adds a rule if it is valid and its identifier is not in use: the identifier that it got, or why
it was not added, with the registry afterwards. -/
def add (r : Registry) (now : String) (rule : Rule) : Except Failure String × Registry :=
  match rule.check with
  | .error f => (.error (.invalidRule f), r)
  | .ok () =>
      if r.has rule.id then (.error (.duplicateId rule.id), r)
      else
        let compiled := rule.compile (r.defaults now) r.usedIds r.ids
        (.ok compiled.1.id,
          { r with
            rules := r.rules ++ [compiled.1]
            cache := r.cache.invalidate
            ids := compiled.2 })

/-- Removes the rules with an identifier; tells whether there was one. -/
def remove (r : Registry) (id : String) : Bool × Registry :=
  let left := r.rules.filter fun c => c.id != id
  let removed := left.length != r.rules.length
  (removed, { r with
    rules := left
    cache := if removed then r.cache.invalidate else r.cache })

/-- The rules, inert ones included, in order. -/
def ruleList (r : Registry) : List Rule := r.rules.map CompiledRule.rule

/-- The first rule with an identifier. -/
def rule? (r : Registry) (id : String) : Option Rule :=
  (r.rules.find? fun c => c.id == id).map CompiledRule.rule

/-- The inert rules with the reason. -/
def inertRules (r : Registry) : List (String × CompileFault) :=
  r.rules.filterMap fun c => c.fault?.map fun f => (c.id, f)

/-- The number of rules. -/
def size (r : Registry) : Nat := r.rules.length

/-- Numbers of rules by kind, service and author. -/
def stats (r : Registry) : RuleStats where
  total := r.size
  active := (r.rules.filter CompiledRule.isActive).length
  inert := (r.rules.filter fun c => !c.isActive).length
  byService := Tally.of (r.ruleList.map Rule.service)
  byAuthor := Tally.of (r.ruleList.map Rule.countedAuthor)

/-- Empties the cache. -/
def clearCache (r : Registry) : Registry := { r with cache := r.cache.invalidate }

end Registry

end BannerMatch
