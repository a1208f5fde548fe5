import BannerMatch.Proofs.Engine.Transparency
import BannerMatch.Proofs.Rule.Settled

/-!
# Confidences stay in range

The fields of a rule are checked before a missing confidence is filled in, so the default
confidence is the one number that is never checked. If it is at most `100`, then all rules of the
engine have valid fields at any time, and no service that is found or cached has a confidence above
`100` (`InRange`). If it is not, one rule without a confidence is enough to break both:
`validFields_run_iff`.
-/

namespace BannerMatch

/-- The services that an answer names. -/
def Answer.foundServices : Answer → List Service
  | .services found => found
  | .best found => found.toList
  | .batch found => found.flatten
  | _ => []

/-- An analysis finds services with the confidences of the rules. -/
theorem exists_of_mem_analyze {rules : List CompiledRule} {text : String} {synthesizeCpe : Bool}
    {s : Service} (hs : s ∈ (analyze rules text synthesizeCpe).services) :
    ∃ c ∈ rules, s.confidence = c.rule.confidence := by
  rw [analyze] at hs
  split at hs
  · cases hs
  · obtain ⟨c, hc, hfound⟩ := List.mem_filterMap.mp (List.mem_mergeSort.mp hs)
    refine ⟨c, hc, ?_⟩
    rw [CompiledRule.identify?] at hfound
    split at hfound
    · cases hfound
    · obtain ⟨m, -, rfl⟩ := Option.map_eq_some_iff.mp hfound
      rfl

variable {defaults : RuleDefaults} {taken : List String} {ids : IdSource}

theorem checkFields_compileFrom (hdefault : defaults.confidence ≤ 100) (rules : List Rule) :
    ∀ c ∈ (compileFrom defaults taken ids rules).1.rules, c.rule.checkFields = .ok () :=
  forall_mem_compileFrom (fun _ _ _ hr => Rule.checkFields_compile hr hdefault) rules

namespace Engine

/-- Nothing in the engine has a confidence above `100`. -/
structure InRange (e : Engine) : Prop where
  default : e.registry.defaultConfidence ≤ 100
  rules : ∀ c ∈ e.registry.rules, c.rule.checkFields = .ok ()
  cached : ∀ p ∈ e.registry.cache.entries, ∀ s ∈ p.2.services, s.confidence ≤ 100

variable {e : Engine}

theorem InRange.analysis (h : InRange e) (text : String) :
    ∀ s ∈ (e.analysis text).services, s.confidence ≤ 100 := by
  intro s hs
  obtain ⟨c, hc, heq⟩ := exists_of_mem_analyze hs
  rw [heq]
  exact ((Rule.checkFields_eq_ok_iff c.rule).mp (h.rules c hc)).2.2

theorem InRange.withCache (h : InRange e) {c : Cache}
    (hcached : ∀ p ∈ c.entries, ∀ s ∈ p.2.services, s.confidence ≤ 100) :
    InRange (e.withCache c) where
  default := h.default
  rules := h.rules
  cached := hcached

/-- No step of a match leaves the range. -/
theorem kept_inRange : Kept (fun _ => True) InRange := by
  intro e text c f _ hc he
  have hrest : InRange (e.withCache c) := by
    cases hc with
    | none => exact he
    | read now hon =>
      have hsub := Cache.get_entries_sublist e.registry.cache now (Fingerprint.ofText text)
      exact he.withCache fun p hp => he.cached p (hsub.subset hp)
    | write now hon =>
      exact he.withCache (Cache.forall_mem_put he.cached now _ _ _
        fun entry hservices => hservices ▸ he.analysis text)
  exact ⟨hrest.default, hrest.rules, hrest.cached⟩

/-- **What matches find is in range**, from the cache or not. -/
theorem matching_inRange :
    Matching (fun _ => True) (fun _ => True) InRange fun _ outcome =>
      ∀ services, outcome = .ok services → ∀ s ∈ services, s.confidence ≤ 100 where
  kept := kept_inRange
  empty services hservices := by
    cases hservices
    simp
  read e now text services _ he hget found hfound := by
    cases hfound
    obtain ⟨entry, hentry, -, rfl⟩ := Cache.exists_of_get_eq_some hget
    exact he.cached _ hentry
  found e text _ he services hservices := by
    cases hservices
    exact he.analysis text
  broken e now text cause _ _ _ _ _ services hservices := by cases hservices

/-- No history leaves the range. -/
theorem invariant_inRange : Invariant (fun _ => True) (fun _ => True) InRange where
  load e now rules _ he :=
    ⟨he.default, checkFields_compileFrom he.default rules, by simp [Engine.load, Registry.load,
      Cache.invalidate]⟩
  add e after now rule id _ he hok := by
    obtain ⟨hcheck, -, c, rfl, -, rfl⟩ := add_eq_ok hok
    refine ⟨he.default, fun c hc => ?_, by simp [Cache.invalidate]⟩
    rcases List.mem_append.mp hc with hc | hc
    · exact he.rules c hc
    · rw [List.mem_singleton.mp hc]
      exact Rule.checkFields_compile (Rule.checkFields_of_check hcheck) he.default
  remove e id he := by
    rw [Engine.remove, Registry.remove_eq]
    split
    · exact ⟨he.default, fun c hc => he.rules c (List.mem_filter.mp hc).1,
        by simp [Cache.invalidate]⟩
    · exact he
  search := kept_inRange
  clear e he := ⟨he.default, he.rules, by simp [clearCache, Registry.clearCache, Cache.invalidate]⟩
  sweep e now he := he.withCache fun p hp =>
    he.cached p ((Cache.sweep_entries_sublist _ now).subset hp)

theorem InRange.matchText (h : InRange e) (now : ℕ) (text : String) {found : List Service}
    (hfound : (e.matchText now text).1 = .ok found) : ∀ s ∈ found, s.confidence ≤ 100 :=
  (matching_inRange.matchText trivial trivial h).1 found hfound

theorem InRange.matchBatch (h : InRange e) (now : ℕ) (banners : List String)
    (schedule : List Turn) {found : List (List Service)}
    (hfound : (e.matchBatch now banners schedule).1 = .ok (.ok found)) :
    ∀ s ∈ found.flatten, s.confidence ≤ 100 := by
  have hall := (matching_inRange.matchBatch h (fun _ _ => trivial) fun _ _ => trivial).1
    found hfound
  have hevery : ∀ services ∈ found, ∀ s ∈ services, s.confidence ≤ 100 := by
    clear hfound
    induction hall with
    | nil => exact fun services hservices => absurd hservices List.not_mem_nil
    | cons hone _ ih => exact List.forall_mem_cons.mpr ⟨hone _ rfl, ih⟩
  intro s hs
  obtain ⟨services, hservices, hs⟩ := List.mem_flatten.mp hs
  exact hevery services hservices s hs

theorem foundServices_settle {α : Type} {result : Except Failure (α × Engine)}
    {answer : α → Answer} (hanswer : ∀ a, (answer a).foundServices = []) :
    (e.settle result answer).1.foundServices = [] := by
  cases result with
  | error f => rfl
  | ok r => exact hanswer r.1

theorem foundServices_ofResult {α : Type} {result : Except Failure α} {answer : α → Answer}
    (hanswer : ∀ a, (answer a).foundServices = []) :
    (Answer.ofResult answer result).foundServices = [] := by
  cases result with
  | error f => rfl
  | ok a => exact hanswer a

/-- What an operation answers that may have broken down. -/
theorem mem_foundServices_ofOutcome {α : Type} {outcome : Except Breakdown α} {answer : α → Answer}
    {s : Service} (hs : s ∈ (Answer.ofOutcome answer outcome).foundServices) :
    ∃ a, outcome = .ok a ∧ s ∈ (answer a).foundServices := by
  cases outcome with
  | error cause => cases hs
  | ok a => exact ⟨a, rfl, hs⟩

/-- **Every answer is in range.** -/
theorem InRange.perform (h : InRange e) (now : Moment) (op : Operation) :
    ∀ s ∈ (e.perform now op).1.foundServices, s.confidence ≤ 100 := by
  cases op with
  | matchBanner banner | matchResponse banner response =>
    intro s hs
    obtain ⟨found, hfound, hs⟩ := mem_foundServices_ofOutcome hs
    exact h.matchText _ _ hfound s hs
  | bestMatch banner =>
    intro s hs
    obtain ⟨best, hbest, hs⟩ := mem_foundServices_ofOutcome hs
    cases hfound : (e.matchText now.instant banner).1 with
    | error cause =>
      rw [Engine.bestMatch, Engine.matchBanner, hfound] at hbest
      cases hbest
    | ok found =>
      rw [Engine.bestMatch, Engine.matchBanner, hfound] at hbest
      cases hbest
      exact h.matchText _ _ hfound s (List.mem_of_mem_head? (Option.mem_toList.mp hs))
  | matchBatch banners schedule =>
    intro s hs
    obtain ⟨result, hresult, hs⟩ := mem_foundServices_ofOutcome hs
    cases result with
    | error f => cases hs
    | ok found => exact h.matchBatch _ _ _ hresult s hs
  | load rules => simp [Engine.perform, Answer.foundServices]
  | loadBuiltin => simp [Engine.perform, Answer.foundServices]
  | remove id => simp [Engine.perform, Answer.foundServices]
  | clearCache => simp [Engine.perform, Answer.foundServices]
  | add rule | addSimple rule => rw [Engine.perform, foundServices_ofResult fun _ => rfl]; simp
  | _ => rw [Engine.perform, foundServices_settle fun _ => rfl]; simp

theorem InRange.run (h : InRange e) (history : List (Moment × Operation)) :
    (∀ answer ∈ (e.run history).1, ∀ s ∈ answer.foundServices, s.confidence ≤ 100) ∧
      InRange (e.run history).2 := by
  induction history generalizing e with
  | nil => exact ⟨by simp [Engine.run], h⟩
  | cons step rest ih =>
    have hfirst : InRange (e.perform step.1 step.2).2 :=
      invariant_inRange.perform h trivial fun _ _ => trivial
    rw [Engine.run]
    exact ⟨List.forall_mem_cons.mpr ⟨h.perform step.1 step.2, (ih hfirst).1⟩, (ih hfirst).2⟩

/-- A valid rule that leaves its confidence open. -/
def openRule : Rule := { service := "any", pattern := "x" }

/-- It gets the default confidence, whatever that is. -/
theorem confidence_load_openRule (e : Engine) (now : Moment) :
    (e.load now [openRule]).2.registry.rules.map (·.rule.confidence) =
      [e.registry.defaultConfidence] := by
  have hvalid : openRule.checkFields = .ok () := by decide +kernel
  rw [Engine.load, Registry.load, compileBatch, compileFrom, hvalid]
  rfl

/-- **Every rule that an engine holds has valid fields, and every service that it finds a confidence
of at most `100`, after any history, exactly if the default confidence is at most `100`.** -/
theorem validFields_run_iff (config : Config) (ttl : ℕ) :
    (∀ history, let after := (start config ttl).run history
      (∀ c ∈ after.2.registry.rules, c.rule.checkFields = .ok () ∧ c.rule.confidence ≤ 100) ∧
        ∀ answer ∈ after.1, ∀ s ∈ answer.foundServices, s.confidence ≤ 100) ↔
      config.defaultConfidence ≤ 100 := by
  constructor
  · intro h
    have hrules := (h [(⟨0, ""⟩, .load [openRule])]).1
    have hload := confidence_load_openRule (start config ttl) ⟨0, ""⟩
    obtain ⟨c, hc, hconfidence⟩ := List.mem_map.mp
      (hload ▸ List.mem_singleton_self (start config ttl).registry.defaultConfidence)
    rw [show config.defaultConfidence = c.rule.confidence from hconfidence.symm]
    exact (hrules c hc).2
  · intro hdefault history
    have hstart : InRange (start config ttl) :=
      { default := hdefault
        rules := fun c hc => by cases hc
        cached := fun p hp => by cases hp }
    have hrun := hstart.run history
    refine ⟨fun c hc => ?_, hrun.1⟩
    have hvalid := hrun.2.rules c hc
    exact ⟨hvalid, ((Rule.checkFields_eq_ok_iff c.rule).mp hvalid).2.2⟩

/-- With a default confidence of `200` a service is found with that confidence, and the rule that
found it would be refused if it were loaded again. -/
theorem confidence_of_default_200 :
    let after := (start { defaultConfidence := 200 } 100).run
      [(⟨0, "2024-01-01 00:00:00"⟩, .load [openRule]),
        (⟨1, "2024-01-01 00:00:01"⟩, .matchBanner "x")]
    after.1.map (fun answer => answer.foundServices.map Service.confidence) = [[], [200]] ∧
      after.2.rules.map Rule.checkFields = [.error (.confidenceOutOfRange 200)] := by
  decide +kernel

end Engine
end BannerMatch
