import BannerMatch.Proofs.Engine.History
import BannerMatch.Proofs.Registry.Numbers
import BannerMatch.Proofs.Registry.Verdicts

/-!
# Rules and their numbers at any time

The rules of an engine have identifiers at any time, which is why the check of a rule, a load and an
addition always judge it alike (`judgesAlike_run`). And they are `Intact`: their fields are as they
have to be, and what is kept of the pattern is what compiling it gives. With the numbers of the
registry this is all that the parts of a registry have to do with each other (`consistent_run`).
-/

namespace BannerMatch

/-- A compiled rule whose parts belong together. -/
structure CompiledRule.Intact (c : CompiledRule) : Prop where
  service : Text.isAllBlank c.rule.service = false
  pattern : c.rule.pattern ≠ ""
  named : c.rule.hasBlankId = false
  dated : c.rule.createTime ≠ ""
  compiled : c.pattern = Pattern.compile c.rule.pattern

/-- Compiling makes an intact rule of a valid one, whatever the default confidence is. -/
theorem Rule.intact_compile {defaults : RuleDefaults} {taken : List String} {ids : IdSource}
    {r : Rule} (hr : r.checkFields = .ok ()) (hnow : defaults.now ≠ "") :
    (r.compile defaults taken ids).1.Intact := by
  obtain ⟨hservice, hgiven, -⟩ := (Rule.checkFields_eq_ok_iff r).mp hr
  have hpattern : r.pattern ≠ "" := by simpa using hgiven
  have hdated : (r.compile defaults taken ids).1.rule.createTime.isEmpty = false :=
    r.createTime_compile hnow
  exact
    { service := hservice
      pattern := hpattern
      named := r.hasBlankId_compile
      dated := by simpa using hdated
      compiled := rfl }

namespace CompiledRule

variable {c : CompiledRule}

/-- A rule takes part in matching exactly if its pattern can be compiled. -/
theorem Intact.isActive_iff (h : c.Intact) :
    c.isActive = true ↔ ∃ p, Pattern.compile c.rule.pattern = .ok p := by
  rw [isActive, h.compiled]
  cases Pattern.compile c.rule.pattern with
  | ok p => simp
  | error f => simp

/-- The fault of a rule is that of its own pattern. -/
theorem Intact.fault?_eq_some_iff (h : c.Intact) (f : CompileFault) :
    c.fault? = some f ↔
      f.pattern = c.rule.pattern ∧ Pattern.compile c.rule.pattern = .error f.fault := by
  obtain ⟨pattern, fault⟩ := f
  rw [fault?, h.compiled]
  cases Pattern.compile c.rule.pattern with
  | ok p => simp
  | error g => simp [eq_comm]

theorem isSome_fault?_iff (c : CompiledRule) : c.fault?.isSome = true ↔ c.isActive = false := by
  rw [fault?, isActive]
  cases c.pattern <;> simp

end CompiledRule

/-- The parts of a registry belong together: the rules, their patterns and the numbers. -/
structure Registry.Consistent (r : Registry) : Prop where
  intact : ∀ c ∈ r.rules, c.Intact
  active : ∀ c ∈ r.rules, c.isActive = true ↔ ∃ p, Pattern.compile c.rule.pattern = .ok p
  faulty : ∀ c ∈ r.rules, ∀ f, c.fault? = some f ↔
    f.pattern = c.rule.pattern ∧ Pattern.compile c.rule.pattern = .error f.fault
  inert : ∀ c ∈ r.rules, c.fault?.isSome = true ↔ c.isActive = false
  counted : r.Counted

namespace Engine

/-- **Check, load and addition judge every rule alike**, at any time and for any default
confidence. -/
theorem judgesAlike_run (config : Config) (ttl : ℕ) (history : List (Moment × Operation))
    (now : String) (rule : Rule) :
    (((start config ttl).run history).2.registry).JudgesAlike now rule := by
  have hnamed : Invariant (fun _ => True) (fun _ => True) fun e =>
      e.registry.defaultConfidence = config.defaultConfidence ∧
        ∀ c ∈ e.registry.rules, c.rule.hasBlankId = false :=
    invariant_rules fun r _ _ _ _ _ => r.hasBlankId_compile
  have hstart : ∀ c ∈ (start config ttl).registry.rules, c.rule.hasBlankId = false :=
    fun c hc => absurd hc List.not_mem_nil
  have hrun := hnamed.run ⟨rfl, hstart⟩ history (fun _ _ => trivial) fun _ _ => trivial
  exact Registry.judgesAlike hrun.2

/-- **A registry is consistent at any time**, if no time of day is empty. -/
theorem consistent_run (config : Config) (ttl : ℕ) (history : List (Moment × Operation))
    (hdates : ∀ step ∈ history, step.1.stamp ≠ "") :
    (((start config ttl).run history).2.registry).Consistent := by
  have hinvariant : Invariant (fun now => now.stamp ≠ "") (fun _ => True) fun e =>
      e.registry.defaultConfidence = config.defaultConfidence ∧
        ∀ c ∈ e.registry.rules, c.Intact :=
    invariant_rules fun r now _ _ hr hnow => Rule.intact_compile hr hnow
  have hstart : ∀ c ∈ (start config ttl).registry.rules, c.Intact :=
    fun c hc => absurd hc List.not_mem_nil
  have hrun := hinvariant.run ⟨rfl, hstart⟩ history hdates fun _ _ => trivial
  exact
    { intact := hrun.2
      active := fun c hc => (hrun.2 c hc).isActive_iff
      faulty := fun c hc => (hrun.2 c hc).fault?_eq_some_iff
      inert := fun c _ => c.isSome_fault?_iff
      counted := Registry.counted _ }

/-- Two rules for one service, of which one is inert, one rule by an author called `unknown` and one
without an author, one that is left out; then an import that fails, an addition and a removal. -/
def changedHistory : List (Moment × Operation) :=
  [(⟨0, "2024-01-01 00:00:00"⟩, .load
      [{ id := "a", service := "ssh", pattern := "SSH-", author := "unknown" },
        { service := "ssh", pattern := "(", confidence := 7 },
        { id := "gone", service := " ", pattern := "x" },
        { id := "b", service := "ftp", pattern := "220", author := "me", createTime := "once" }]),
    (⟨1, "2024-01-01 00:00:01"⟩, .importJson ['[']),
    (⟨2, "2024-01-01 00:00:02"⟩, .addSimple { service := "any", pattern := "ok" }),
    (⟨3, "2024-01-01 00:00:03"⟩, .remove "b")]

theorem consistent_changedHistory :
    let r := ((start { defaultConfidence := 200 } 100).run changedHistory).2.registry
    (∀ step ∈ changedHistory, step.1.stamp ≠ "") ∧ r.Consistent ∧
      r.usedIds = ["a", "rule_1", "rule_2"] ∧
      r.stats = ⟨3, 2, 1, [("any", 1), ("ssh", 2)], [("unknown", 2), ("user", 1)]⟩ := by
  intro r
  have hdates : ∀ step ∈ changedHistory, step.1.stamp ≠ "" := by decide
  exact ⟨hdates, consistent_run _ 100 changedHistory hdates, by decide +kernel, by decide +kernel⟩

end Engine
end BannerMatch
