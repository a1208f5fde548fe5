import BannerMatch.Analysis
import BannerMatch.Proofs.Ranking

/-!
# Analyses by other rules

An analysis by fewer rules finds what is left when the services of the other rules are taken out of
what it found (`analyze_filter_ne`). An analysis by one rule more finds what that rule finds on its
own besides, behind the services of at least its confidence (`insertedInto_analyze`). When rules
were compiled does not show in what they find (`undated_compileFrom`, `analyze_undated`).
-/

namespace BannerMatch

variable (rules : List CompiledRule) (text : String) (synthesizeCpe : Bool)

theorem services_analyze_of_ne {text : String} (hne : text ≠ "") :
    (analyze rules text synthesizeCpe).services =
      rank (rules.filterMap fun c => c.identify? text synthesizeCpe) := by
  rw [analyze, if_neg (by simpa using hne)]

/-! ### Fewer rules -/

/-- A service names the rule that has found it. -/
theorem CompiledRule.ruleId_of_identify? {c : CompiledRule} {text : String}
    {synthesizeCpe : Bool} {s : Service} (h : c.identify? text synthesizeCpe = some s) :
    s.ruleId = c.id := by
  rw [identify?] at h
  split at h
  · cases h
  · obtain ⟨m, -, rfl⟩ := Option.map_eq_some_iff.mp h
    rfl

theorem filterMap_filter_ne (id : String) :
    (rules.filter fun c => c.id != id).filterMap (fun c => c.identify? text synthesizeCpe) =
      (rules.filterMap fun c => c.identify? text synthesizeCpe).filter fun s => s.ruleId != id := by
  induction rules with
  | nil => rfl
  | cons c rest ih =>
    by_cases hid : c.id = id
    · rw [List.filter_cons_of_neg (by simp [hid]), ih, List.filterMap_cons]
      cases hfound : c.identify? text synthesizeCpe with
      | none => rfl
      | some s =>
        rw [List.filter_cons_of_neg (by simp [c.ruleId_of_identify? hfound, hid])]
    · rw [List.filter_cons_of_pos (by simpa using hid), List.filterMap_cons, List.filterMap_cons]
      cases hfound : c.identify? text synthesizeCpe with
      | none => exact ih
      | some s =>
        rw [List.filter_cons_of_pos (by simpa [c.ruleId_of_identify? hfound] using hid)]
        exact congrArg (s :: ·) ih

/-- **Without the rules of an identifier** an analysis finds the same, but for their services. -/
theorem analyze_filter_ne (id : String) :
    (analyze (rules.filter fun c => c.id != id) text synthesizeCpe).services =
      (analyze rules text synthesizeCpe).services.filter fun s => s.ruleId != id := by
  by_cases hne : text = ""
  · subst hne
    rfl
  · rw [services_analyze_of_ne _ _ hne, services_analyze_of_ne _ _ hne, filterMap_filter_ne,
      rank_filter]

/-! ### One rule more -/

/-- The list `found` is `previous` with at most one service inserted, that of `own`: behind the
services of at least its confidence, and before those of less. -/
structure InsertedInto (own previous found : List Service) : Prop where
  at_most_one : own.length ≤ 1
  placed : ∃ upper lower, previous = upper ++ lower ∧ found = upper ++ (own ++ lower) ∧
    ∀ s ∈ own, (∀ t ∈ upper, s.confidence ≤ t.confidence) ∧ ∀ t ∈ lower, t.confidence < s.confidence

/-- What a rule finds on its own. -/
theorem services_analyze_singleton (c : CompiledRule) {text : String} (hne : text ≠ "") :
    (analyze [c] text synthesizeCpe).services = (c.identify? text synthesizeCpe).toList := by
  rw [services_analyze_of_ne _ _ hne, List.filterMap_cons]
  cases c.identify? text synthesizeCpe <;> simp [rank]

/-- **With one rule more** an analysis finds the same and what that rule finds on its own. -/
theorem insertedInto_analyze (c : CompiledRule) {text : String} (hne : text ≠ "") :
    InsertedInto (analyze [c] text synthesizeCpe).services
      (analyze rules text synthesizeCpe).services
      (analyze (rules ++ [c]) text synthesizeCpe).services := by
  rw [services_analyze_singleton _ c hne, services_analyze_of_ne _ _ hne,
    services_analyze_of_ne _ _ hne, List.filterMap_append]
  set found := rules.filterMap fun c => c.identify? text synthesizeCpe
  cases hc : c.identify? text synthesizeCpe with
  | none => exact ⟨by simp, rank found, [], by simp, by simp [hc], by simp⟩
  | some s =>
    have hadded : [c].filterMap (fun c => c.identify? text synthesizeCpe) = [s] := by simp [hc]
    rw [hadded, rank_append_singleton]
    refine ⟨by simp, _, _, (ranked_rank found).eq_atLeast_append_below s.confidence, by simp, ?_⟩
    intro t ht
    rw [Option.toList_some, List.mem_singleton] at ht
    subst ht
    exact ⟨fun u hu => of_decide_eq_true (List.mem_filter.mp hu).2,
      fun u hu => of_decide_eq_true (List.mem_filter.mp hu).2⟩

/-! ### Rules compiled at another time -/

/-- A compiled rule without its creation time. -/
def CompiledRule.undated (c : CompiledRule) : CompiledRule :=
  { c with rule := { c.rule with createTime := "" } }

/-- **Batches that are compiled at different times** differ in creation times only. -/
theorem undated_compileFrom {defaults defaults' : RuleDefaults}
    (h : defaults.confidence = defaults'.confidence) (taken : List String) (ids : IdSource)
    (rules : List Rule) :
    (compileFrom defaults taken ids rules).1.rules.map CompiledRule.undated =
      (compileFrom defaults' taken ids rules).1.rules.map CompiledRule.undated := by
  induction rules generalizing taken ids with
  | nil => rfl
  | cons r rest ih =>
    rw [compileFrom, compileFrom]
    cases r.checkFields with
    | error f => exact ih taken ids
    | ok u =>
      have hfirst : (r.compile defaults taken ids).1.undated =
          (r.compile defaults' taken ids).1.undated := by
        simp only [Rule.compile, Rule.complete, CompiledRule.undated, h]
      exact congrArg₂ List.cons hfirst (ih _ _)

theorem analyze_undated :
    analyze (rules.map CompiledRule.undated) text synthesizeCpe =
      analyze rules text synthesizeCpe := by
  rw [analyze, analyze, List.filterMap_map, List.filter_map, List.length_map]
  rfl

end BannerMatch
