import BannerMatch.Proofs.Analysis
import BannerMatch.Proofs.Engine.Transparency
import BannerMatch.Proofs.Registry.Loads
import BannerMatch.Proofs.Rule.Settled

/-!
# Loading rules at once and adding them one by one

Valid rules with identifiers of their own can be loaded as a list or added one after the other to an
engine without rules: but for the creation times that are filled in, the engine is the same
afterwards (`heldAlike_run_additions`). A rule with an identifier of its own is compiled to itself
with its gaps filled in, whatever the identifiers in use are (`Rule.compile_of_named`), so neither
way can tell what came before it.
-/

namespace BannerMatch

/-! ### Rules with identifiers of their own -/

/-- What a rule with an identifier of its own is compiled to. -/
def Rule.compiledBy (defaults : RuleDefaults) (r : Rule) : CompiledRule :=
  ⟨r.filledIn defaults, Pattern.compile r.pattern⟩

/-- A rule without its creation time. -/
def Rule.undated (r : Rule) : Rule := { r with createTime := "" }

variable {defaults : RuleDefaults} {taken : List String} {ids : IdSource}

theorem Rule.compile_of_named {r : Rule} (hnamed : r.hasBlankId = false) :
    r.compile defaults taken ids = (r.compiledBy defaults, ids) := by
  simp only [Rule.compile, Rule.complete, compiledBy, filledIn, hnamed, Bool.false_eq_true,
    if_false]

/-- A batch of valid rules with identifiers of their own is compiled rule by rule. -/
theorem rules_compileFrom_of_named {rules : List Rule}
    (hvalid : ∀ r ∈ rules, r.checkFields = .ok ()) (hnamed : ∀ r ∈ rules, r.hasBlankId = false) :
    (compileFrom defaults taken ids rules).1.rules = rules.map (Rule.compiledBy defaults) := by
  induction rules generalizing taken ids with
  | nil => rfl
  | cons r rest ih =>
    obtain ⟨hr, hrest⟩ := List.forall_mem_cons.mp hvalid
    obtain ⟨hnamed, hnamedRest⟩ := List.forall_mem_cons.mp hnamed
    rw [compileFrom, hr, List.map_cons, ← ih hrest hnamedRest, Rule.compile_of_named hnamed]
    rfl

/-- The time of day shows in the creation time only, -/
theorem Rule.undated_compiledBy (confidence : UInt8) (now later : String) (r : Rule) :
    (r.compiledBy ⟨confidence, now⟩).undated = (r.compiledBy ⟨confidence, later⟩).undated := rfl

/-- and not even there if the rule gives its own. -/
theorem Rule.compiledBy_of_dated (confidence : UInt8) (now later : String) {r : Rule}
    (hdated : r.createTime ≠ "") :
    r.compiledBy ⟨confidence, now⟩ = r.compiledBy ⟨confidence, later⟩ := by
  have hgiven : r.createTime.isEmpty = false := by simpa using hdated
  simp only [compiledBy, filledIn, hgiven, Bool.false_eq_true, if_false]

/-! ### Numbers of rules -/

/-- Creation times do not count. -/
theorem Registry.stats_congr {r r' : Registry}
    (h : r.rules.map CompiledRule.undated = r'.rules.map CompiledRule.undated) :
    r.stats = r'.stats := by
  -- every number is one of the list of rules without dates
  have hstats : ∀ r : Registry,
      r.stats = { r with rules := r.rules.map CompiledRule.undated }.stats := by
    intro r
    simp only [stats, size, ruleList, List.map_map, List.length_map, List.filter_map]
    rfl
  rw [hstats r, hstats r', stats, stats]
  simp only [size, ruleList, h]

namespace Engine

/-! ### Additions -/

/-- The history in which rules are added, each at its moment. -/
def additionSteps (additions : List (Moment × Rule)) : List (Moment × Operation) :=
  additions.map fun a => (a.1, .add a.2)

/-- The engine with one rule more and nothing cached. -/
def withRule (e : Engine) (c : CompiledRule) : Engine :=
  { e with registry := { e.registry with
      rules := e.registry.rules ++ [c]
      cache := e.registry.cache.invalidate } }

variable {e : Engine}

theorem usedIds_withRule (c : CompiledRule) :
    (e.withRule c).registry.usedIds = e.registry.usedIds ++ [c.id] :=
  List.map_append

/-- **A valid rule whose own identifier is not in use** is added under it. -/
theorem perform_add_of_free {now : Moment} {rule : Rule} (hcheck : rule.check = .ok ())
    (hnamed : rule.hasBlankId = false) (hfree : rule.id ∉ e.registry.usedIds) :
    e.perform now (.add rule) =
      (.added rule.id, e.withRule (rule.compiledBy (e.registry.defaults now.stamp))) := by
  rw [perform, Engine.add]
  rcases e.registry.add_cases now.stamp rule with
    ⟨f, hinvalid, -⟩ | ⟨-, hused, -⟩ | ⟨-, -, c, hc, hadd⟩
  · rw [hcheck] at hinvalid
    cases hinvalid
  · exact absurd hused hfree
  · rw [Rule.compile_of_named hnamed] at hc
    subst hc
    rw [hadd]
    rfl

/-- **Additions put the rules behind those that are there**, one after the other. -/
theorem run_additionSteps {additions : List (Moment × Rule)}
    (hvalid : ∀ a ∈ additions, a.2.check = .ok ())
    (hnamed : ∀ a ∈ additions, a.2.hasBlankId = false)
    (hdistinct : (e.registry.usedIds ++ additions.map fun a => a.2.id).Nodup) :
    (e.run (additionSteps additions)).1 = additions.map (fun a => .added a.2.id) ∧
      (e.run (additionSteps additions)).2.registry.rules = e.registry.rules ++
        additions.map fun a => a.2.compiledBy (e.registry.defaults a.1.stamp) := by
  induction additions generalizing e with
  | nil => exact ⟨rfl, (List.append_nil _).symm⟩
  | cons a rest ih =>
    obtain ⟨hcheck, hvalidRest⟩ := List.forall_mem_cons.mp hvalid
    obtain ⟨hname, hnamedRest⟩ := List.forall_mem_cons.mp hnamed
    have hfree : a.2.id ∉ e.registry.usedIds := fun hused =>
      (List.nodup_append.mp hdistinct).2.2 _ hused _ List.mem_cons_self rfl
    have hrest : ((e.withRule (a.2.compiledBy (e.registry.defaults a.1.stamp))).registry.usedIds ++
        rest.map fun a => a.2.id).Nodup := by
      rw [usedIds_withRule, List.append_assoc]
      exact hdistinct
    obtain ⟨hanswers, hrules⟩ := ih hvalidRest hnamedRest hrest
    rw [additionSteps, List.map_cons, run, perform_add_of_free hcheck hname hfree]
    refine ⟨congrArg (_ :: ·) hanswers, hrules.trans ?_⟩
    exact List.append_assoc _ _ _

/-- Additions look for no texts. -/
theorem searchedTexts_additionSteps (additions : List (Moment × Rule)) :
    searchedTexts (additionSteps additions) = [] := by
  rw [searchedTexts, additionSteps, List.flatMap_eq_nil_iff]
  intro step hstep
  obtain ⟨a, -, rfl⟩ := List.mem_map.mp hstep
  rfl

/-! ### Engines that differ in dates -/

/-- Two engines hold the given rules alike: where the dates come from the rules they are equal, and
nothing else depends on the dates. -/
structure HeldAlike (given : List Rule) (loaded added : Engine) : Prop where
  rules : loaded.rules.map Rule.undated = added.rules.map Rule.undated
  dates : ∀ (i : ℕ) (r : Rule), given[i]? = some r → r.createTime ≠ "" →
    loaded.rules[i]? = added.rules[i]?
  stats : loaded.registry.stats = added.registry.stats
  alike : MatchAlike [] loaded added

section Undated

variable {loaded added : Engine}

/-- What is found does not depend on the dates. -/
theorem analysis_congr
    (hrules : loaded.registry.rules.map CompiledRule.undated =
      added.registry.rules.map CompiledRule.undated)
    (hconfig : loaded.config = added.config) (text : String) :
    loaded.analysis text = added.analysis text := by
  rw [analysis, analysis, ← analyze_undated, hrules, analyze_undated, hconfig]

/-- Rules that are compiled from the same ones, each at its own moment, are held alike. -/
theorem HeldAlike.of_compiled {additions : List (Moment × Rule)} {confidence : UInt8}
    (times times' : Moment × Rule → String)
    (hloaded : loaded.registry.rules =
      additions.map fun a => a.2.compiledBy ⟨confidence, times a⟩)
    (hadded : added.registry.rules =
      additions.map fun a => a.2.compiledBy ⟨confidence, times' a⟩)
    (hconfig : loaded.config = added.config)
    (hfaithful : ∀ texts, FingerprintsDiffer texts →
      Faithful texts loaded ∧ Faithful texts added) :
    HeldAlike (additions.map Prod.snd) loaded added := by
  have hundated : loaded.registry.rules.map CompiledRule.undated =
      added.registry.rules.map CompiledRule.undated := by
    rw [hloaded, hadded, List.map_map, List.map_map]
    exact List.map_congr_left fun a _ => a.2.undated_compiledBy _ _ _
  refine ⟨?rules, ?dates, Registry.stats_congr hundated, matchAlike_of_faithful ?found
    (fun _ hdiff => (hfaithful _ hdiff).1) fun _ hdiff => (hfaithful _ hdiff).2⟩
  case rules =>
    have hrules := congrArg (List.map CompiledRule.rule) hundated
    rw [List.map_map, List.map_map] at hrules
    rw [Engine.rules, Engine.rules, Registry.ruleList, Registry.ruleList, List.map_map,
      List.map_map]
    exact hrules
  case dates =>
    intro i r hr hdated
    rw [List.getElem?_map, Option.map_eq_some_iff] at hr
    obtain ⟨a, ha, rfl⟩ := hr
    rw [Engine.rules, Engine.rules, Registry.ruleList, Registry.ruleList, hloaded, hadded]
    simp only [List.getElem?_map, ha, Option.map_some]
    exact congrArg (fun c : CompiledRule => some c.rule) (Rule.compiledBy_of_dated _ _ _ hdated)
  case found =>
    intro text
    rw [analysis_congr hundated hconfig]

end Undated

/-! ### Both ways -/

/-- Nothing is left of the rules of before a load. -/
theorem rules_load_of_named (e : Engine) (now : Moment) {rules : List Rule}
    (hvalid : ∀ r ∈ rules, r.check = .ok ()) (hnamed : ∀ r ∈ rules, r.hasBlankId = false) :
    (e.load now rules).2.registry.rules =
      rules.map (Rule.compiledBy (e.registry.defaults now.stamp)) :=
  rules_compileFrom_of_named (fun r hr => Rule.checkFields_of_check (hvalid r hr)) hnamed

/-- **Adding rules one by one comes to the same as loading them**, in any engine: all of them are
added under their own identifiers, and hold as they do after a load. -/
theorem heldAlike_run_additions (e : Engine) (now first : Moment)
    (additions : List (Moment × Rule)) (hvalid : ∀ a ∈ additions, a.2.check = .ok ())
    (hnamed : ∀ a ∈ additions, a.2.hasBlankId = false)
    (hdistinct : (additions.map fun a => a.2.id).Nodup) :
    let loaded := (e.load now (additions.map Prod.snd)).2
    let added := (e.load first []).2.run (additionSteps additions)
    added.1 = additions.map (fun a => .added a.2.id) ∧
      HeldAlike (additions.map Prod.snd) loaded added.2 := by
  intro loaded added
  have hrun := run_additionSteps (e := (e.load first []).2) hvalid hnamed hdistinct
  refine ⟨hrun.1, .of_compiled (fun _ => now.stamp) (fun a => a.1.stamp) ?loaded hrun.2 ?config
    fun texts hdiff => ⟨.of_nil rfl, ?faithful⟩⟩
  case loaded =>
    have hload := rules_load_of_named e now (List.forall_mem_map.mpr hvalid)
      (List.forall_mem_map.mpr hnamed)
    rw [List.map_map] at hload
    exact hload
  case config => exact (run_settings (e.load first []).2 (additionSteps additions)).1.symm
  case faithful =>
    refine (invariant_faithful _).run (.of_nil rfl) _ (fun _ _ => trivial) ?_
    rw [searchedTexts_additionSteps]
    exact fun text ht => absurd ht List.not_mem_nil

/-- A rule that leaves its confidence and its date open, one that gives both, and one with the
identifier of a built-in rule. -/
def threeAdditions : List (Moment × Rule) :=
  [(⟨3, "2024-01-01 00:00:03"⟩,
      { id := "v", service := "ssh", pattern := "SSH-([12])", version := "$1" }),
    (⟨4, "2024-01-01 00:00:04"⟩,
      { id := "dash", service := "any", pattern := "-", confidence := 70, createTime := "once" }),
    (⟨9, "2024-01-01 00:00:09"⟩,
      { id := "redis", service := "s", pattern := "S", author := "me" })]

/-- The three rules take the place of the built-in ones, in both ways. -/
theorem heldAlike_run_threeAdditions :
    let e := ((start {} 100).run [(⟨0, "2024-01-01 00:00:00"⟩, .loadBuiltin)]).2
    let loaded := (e.load ⟨1, "2024-01-01 00:00:01"⟩ (threeAdditions.map Prod.snd)).2
    let added := (e.load ⟨2, "2024-01-01 00:00:02"⟩ []).2.run (additionSteps threeAdditions)
    ((∀ a ∈ threeAdditions, a.2.check = .ok ()) ∧
      (∀ a ∈ threeAdditions, a.2.hasBlankId = false) ∧
      (threeAdditions.map fun a => a.2.id).Nodup) ∧
    added.1 = [.added "v", .added "dash", .added "redis"] ∧
      HeldAlike (threeAdditions.map Prod.snd) loaded added.2 := by
  intro e loaded added
  have hvalid : ∀ a ∈ threeAdditions, a.2.check = .ok () := by decide +kernel
  have hnamed : ∀ a ∈ threeAdditions, a.2.hasBlankId = false := by decide +kernel
  have hdistinct : (threeAdditions.map fun a => a.2.id).Nodup := by decide
  exact ⟨⟨hvalid, hnamed, hdistinct⟩,
    heldAlike_run_additions e _ _ threeAdditions hvalid hnamed hdistinct⟩

end Engine
end BannerMatch
