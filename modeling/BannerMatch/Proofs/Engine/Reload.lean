import BannerMatch.Proofs.Engine.History
import BannerMatch.Proofs.Rule.Settled

/-!
# Loading the rules of an engine into another one

The rules of an engine are settled at any time (`invariant_settled`). When an engine with the same
configuration loads them, it takes them over as they are, and its report leaves nothing out
(`load_settled`).
-/

namespace BannerMatch
namespace Engine

/-- The rules of the engine are settled, for the default confidence of its configuration. -/
structure SettledBy (config : Config) (e : Engine) : Prop where
  confidence : e.registry.defaultConfidence = config.defaultConfidence
  rules : ∀ c ∈ e.registry.rules, c.Settled config.defaultConfidence

variable {config : Config}

theorem settledBy_start (config : Config) (ttl : ℕ) : SettledBy config (start config ttl) where
  confidence := rfl
  rules c hc := by cases hc

/-- **The rules of an engine are settled at any time**, if no time of day is empty. -/
theorem invariant_settled (hconfig : config.defaultConfidence ≤ 100) :
    Invariant (fun now => now.stamp ≠ "") (fun _ => True) (SettledBy config) := by
  have hsettled : SettledBy config = fun e =>
      e.registry.defaultConfidence = config.defaultConfidence ∧
        ∀ c ∈ e.registry.rules, c.Settled config.defaultConfidence :=
    funext fun e => propext ⟨fun h => ⟨h.confidence, h.rules⟩, fun h => ⟨h.1, h.2⟩⟩
  rw [hsettled]
  refine invariant_rules fun r now taken ids hr hnow => ?_
  have hdefault : (RuleDefaults.mk config.defaultConfidence now.stamp).confidence ≤ 100 := hconfig
  exact Rule.settled_compile hr hdefault hnow

/-- The inert rules, as a load reports them. -/
theorem inertDiagnostics_eq (r : Registry) :
    inertDiagnostics r.rules = r.inertRules.map fun p => ⟨p.1, .inert p.2⟩ := by
  rw [inertDiagnostics, Registry.inertRules, List.map_filterMap]
  refine List.filterMap_congr fun c _ => ?_
  cases c.fault? with
  | none => rfl
  | some f => rfl

/-- The report on a load of settled rules. -/
def takeoverReport (source : Engine) : LoadReport where
  loaded := source.rules.length
  inert := source.registry.inertRules.length
  skipped := 0
  diagnostics := source.registry.inertRules.map fun p => ⟨p.1, .inert p.2⟩

/-- **The rules of an engine are loaded as they are** by an engine with the same configuration. -/
theorem load_settled {source target : Engine} (hsource : SettledBy config source)
    (htarget : target.registry.defaultConfidence = config.defaultConfidence) (now : Moment) :
    (target.load now source.rules).1 = takeoverReport source ∧
      (target.load now source.rules).2 =
        { target with registry := { target.registry with
            rules := source.registry.rules
            reloadedAt := some now.stamp
            cache := target.registry.cache.invalidate } } := by
  have hrules : ∀ c ∈ source.registry.rules,
      c.Settled (target.registry.defaults now.stamp).confidence := by
    have hdefault : (target.registry.defaults now.stamp).confidence = config.defaultConfidence :=
      htarget
    rw [hdefault]
    exact hsource.rules
  have hbatch := compileBatch_of_settled target.registry.ids hrules
  rw [Engine.load, Registry.load, Engine.rules, Registry.ruleList, hbatch]
  refine ⟨?_, rfl⟩
  rw [report_of_settled, takeoverReport, inertDiagnostics_eq]
  simp [Engine.rules, Registry.ruleList]

end Engine
end BannerMatch
