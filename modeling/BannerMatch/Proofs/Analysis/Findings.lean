import BannerMatch.Proofs.Analysis

/-!
# What an analysis finds

An analysis finds what its rules find one by one, and ranks it: `rankedFindings_analyze`. A rule
that is active and whose pattern matches finds one service, any other rule none
(`length_services_analyze_singleton`), whatever the other rules are.

* `findings` are the services in the order of the rules, `RankedFindings` says how the services of
  an analysis come out of them.
* The first service belongs to the earliest one of the surest rules: `exists_firstOf`.
-/

namespace BannerMatch

/-- Whether the rule is active and its pattern matches a text. -/
def CompiledRule.isFoundIn (c : CompiledRule) (text : String) : Bool :=
  match c.pattern with
  | .ok p => p.isMatch text
  | .error _ => false

/-- What rules find in a text one by one, in their order. -/
def findings (rules : List CompiledRule) (text : String) (synthesizeCpe : Bool) : List Service :=
  rules.flatMap fun c => (analyze [c] text synthesizeCpe).services

/-- The service comes from the earliest one of the surest rules that are found in the text. -/
structure FirstOf (rules : List CompiledRule) (text : String) (synthesizeCpe : Bool)
    (c : CompiledRule) (s : Service) : Prop where
  found : c.isFoundIn text = true
  alone : (analyze [c] text synthesizeCpe).services = [s]
  surest : ∀ d ∈ rules, d.isFoundIn text = true → d.rule.confidence ≤ c.rule.confidence
  earliest : ∃ before after, rules = before ++ c :: after ∧
    ∀ d ∈ before, d.isFoundIn text = true → d.rule.confidence < c.rule.confidence

/-- The analysis holds what the rules find one by one in the text, ranked. -/
structure RankedFindings (rules : List CompiledRule) (text : String) (synthesizeCpe : Bool)
    (a : Analysis) : Prop where
  /-- Every active rule is tried once. -/
  evaluations : a.evaluations = rules.countP CompiledRule.isActive
  /-- A rule finds one service on its own, or none. -/
  alone : ∀ c ∈ rules, (analyze [c] text synthesizeCpe).services.length =
    if c.isFoundIn text then 1 else 0
  perm : a.services.Perm (findings rules text synthesizeCpe)
  /-- Inert rules and rules that do not match can be left out or put in. -/
  others : ∀ others : List CompiledRule,
    others.filter (·.isFoundIn text) = rules.filter (·.isFoundIn text) →
      (analyze others text synthesizeCpe).services = a.services
  ranked : a.services.Pairwise fun s t => t.confidence ≤ s.confidence
  /-- Services of one confidence stand in the order of their rules. -/
  stable : ∀ confidence, a.services.filter (fun s => s.confidence == confidence) =
    (findings rules text synthesizeCpe).filter fun s => s.confidence == confidence
  first : ∀ s ∈ a.services.head?, ∃ c, FirstOf rules text synthesizeCpe c s

/-! ### One rule -/

variable {text : String}

theorem CompiledRule.isSome_identify? (c : CompiledRule) (text : String) (synthesizeCpe : Bool) :
    (c.identify? text synthesizeCpe).isSome = c.isFoundIn text := by
  rw [identify?, isFoundIn]
  cases c.pattern with
  | error f => rfl
  | ok p => exact Option.isSome_map

/-- A service has the confidence of the rule that has found it. -/
theorem CompiledRule.confidence_of_identify? {c : CompiledRule} {synthesizeCpe : Bool} {s : Service}
    (h : c.identify? text synthesizeCpe = some s) : s.confidence = c.rule.confidence := by
  rw [identify?] at h
  split at h
  · cases h
  · obtain ⟨m, -, rfl⟩ := Option.map_eq_some_iff.mp h
    rfl

variable (synthesizeCpe : Bool)

/-- **A rule finds one service on its own, or none.** -/
theorem length_services_analyze_singleton (c : CompiledRule) (hne : text ≠ "") :
    (analyze [c] text synthesizeCpe).services.length = if c.isFoundIn text then 1 else 0 := by
  rw [services_analyze_singleton _ c hne, ← c.isSome_identify? text synthesizeCpe]
  cases c.identify? text synthesizeCpe with
  | none => rfl
  | some s => rfl

/-! ### All rules -/

theorem findings_eq_filterMap (rules : List CompiledRule) (hne : text ≠ "") :
    findings rules text synthesizeCpe =
      rules.filterMap fun c => c.identify? text synthesizeCpe := by
  rw [findings, List.filterMap_eq_flatMap_toList]
  exact List.flatMap_congr fun c _ => services_analyze_singleton _ c hne

theorem services_analyze_eq_rank (rules : List CompiledRule) (hne : text ≠ "") :
    (analyze rules text synthesizeCpe).services = rank (findings rules text synthesizeCpe) := by
  rw [services_analyze_of_ne _ _ hne, findings_eq_filterMap _ rules hne]

/-- Rules that are not found in the text find nothing. -/
theorem findings_filter_isFoundIn (rules : List CompiledRule) (hne : text ≠ "") :
    findings (rules.filter (·.isFoundIn text)) text synthesizeCpe =
      findings rules text synthesizeCpe := by
  induction rules with
  | nil => rfl
  | cons c rest ih =>
    have halone := length_services_analyze_singleton synthesizeCpe c hne
    by_cases hc : c.isFoundIn text = true
    · rw [List.filter_cons, if_pos hc]
      exact congrArg (_ ++ ·) ih
    · rw [if_neg hc, List.length_eq_zero_iff] at halone
      rw [List.filter_cons, if_neg hc, ih, findings, findings, List.flatMap_cons, halone,
        List.nil_append]

theorem services_analyze_congr {rules others : List CompiledRule} (hne : text ≠ "")
    (h : others.filter (·.isFoundIn text) = rules.filter (·.isFoundIn text)) :
    (analyze others text synthesizeCpe).services = (analyze rules text synthesizeCpe).services := by
  rw [services_analyze_eq_rank _ others hne, services_analyze_eq_rank _ rules hne,
    ← findings_filter_isFoundIn _ others hne, h, findings_filter_isFoundIn _ rules hne]

/-! ### The first service -/

variable {synthesizeCpe}

theorem mem_findings {rules : List CompiledRule} (hne : text ≠ "") {s : Service} :
    s ∈ findings rules text synthesizeCpe ↔
      ∃ c ∈ rules, c.identify? text synthesizeCpe = some s := by
  rw [findings_eq_filterMap _ rules hne, List.mem_filterMap]

/-- The first service of some confidence comes from the first rule of that confidence that is found
in the text. -/
theorem exists_rule_of_atConfidence {rules : List CompiledRule} (hne : text ≠ "")
    {confidence : UInt8} {s : Service} {rest : List Service}
    (h : atConfidence confidence (findings rules text synthesizeCpe) = s :: rest) :
    ∃ before c after, rules = before ++ c :: after ∧ c.identify? text synthesizeCpe = some s ∧
      ∀ d ∈ before, ∀ t, d.identify? text synthesizeCpe = some t → t.confidence ≠ confidence := by
  rw [findings_eq_filterMap _ rules hne, atConfidence, List.filter_filterMap,
    List.filterMap_eq_cons_iff] at h
  obtain ⟨before, c, after, hrules, hbefore, hc, -⟩ := h
  refine ⟨before, c, after, hrules, (Option.filter_eq_some_iff.mp hc).1, fun d hd t ht heq => ?_⟩
  have hnone := hbefore d hd
  rw [ht, Option.filter_some, if_pos (by simpa using heq)] at hnone
  cases hnone

/-- **The first service** belongs to the earliest one of the surest rules. -/
theorem exists_firstOf {rules : List CompiledRule} (hne : text ≠ "") {s : Service}
    (hs : s ∈ (analyze rules text synthesizeCpe).services.head?) :
    ∃ c, FirstOf rules text synthesizeCpe c s := by
  obtain ⟨rest, hservices⟩ := List.head?_eq_some_iff.mp hs
  rw [services_analyze_eq_rank _ rules hne] at hservices
  have hranked := ranked_rank (findings rules text synthesizeCpe)
  have hstable := atConfidence_rank s.confidence (findings rules text synthesizeCpe)
  rw [hservices] at hranked hstable
  rw [atConfidence_cons, if_pos rfl] at hstable
  obtain ⟨before, c, after, hrules, hc, hbefore⟩ := exists_rule_of_atConfidence hne hstable.symm
  have hconfidence := CompiledRule.confidence_of_identify? hc
  -- whatever another rule finds is ranked behind the first service
  have hsurest : ∀ d ∈ rules, ∀ t, d.identify? text synthesizeCpe = some t →
      t.confidence ≤ s.confidence := by
    intro d hd t ht
    have hmem : t ∈ rank (findings rules text synthesizeCpe) :=
      (rank_perm _).mem_iff.mpr ((mem_findings hne).mpr ⟨d, hd, ht⟩)
    rw [hservices] at hmem
    exact hranked.le_head hmem
  have hfinds : ∀ d : CompiledRule, d.isFoundIn text = true →
      ∃ t, d.identify? text synthesizeCpe = some t ∧ t.confidence = d.rule.confidence := by
    intro d hd
    rw [← d.isSome_identify? text synthesizeCpe] at hd
    obtain ⟨t, ht⟩ := Option.isSome_iff_exists.mp hd
    exact ⟨t, ht, CompiledRule.confidence_of_identify? ht⟩
  refine ⟨c, ?_, ?_, fun d hd hfound => ?_, before, after, hrules, fun d hd hfound => ?_⟩
  · rw [← c.isSome_identify? text synthesizeCpe, hc]
    rfl
  · rw [services_analyze_singleton _ c hne, hc]
    rfl
  · obtain ⟨t, ht, htd⟩ := hfinds d hfound
    rw [← htd, ← hconfidence]
    exact hsurest d hd t ht
  · obtain ⟨t, ht, htd⟩ := hfinds d hfound
    have hd' : d ∈ rules := by
      rw [hrules]
      exact List.mem_append_left _ hd
    rw [← htd, ← hconfidence]
    exact UInt8.lt_of_le_of_ne (hsurest d hd' t ht) (hbefore d hd t ht)

/-! ### Analyses -/

/-- **An analysis is exact and ranked.** In a text that is not empty it finds what the rules find
one by one, by falling confidence and then in the order of the rules. -/
theorem rankedFindings_analyze (rules : List CompiledRule) (text : String) (hne : text ≠ "")
    (synthesizeCpe : Bool) :
    RankedFindings rules text synthesizeCpe (analyze rules text synthesizeCpe) where
  evaluations := by
    rw [analyze, if_neg (by simpa using hne), List.countP_eq_length_filter]
  alone c _ := length_services_analyze_singleton synthesizeCpe c hne
  perm := by
    rw [services_analyze_eq_rank _ rules hne]
    exact List.mergeSort_perm _ _
  others others h := services_analyze_congr synthesizeCpe hne h
  ranked := by
    rw [services_analyze_eq_rank _ rules hne]
    exact ranked_rank _
  stable confidence := by
    rw [services_analyze_eq_rank _ rules hne]
    exact atConfidence_rank confidence _
  first _ hs := exists_firstOf hne hs

/-- Two rules of equal confidence with the same identifier, an inert one and one that is not found
in between, and a surer and a less sure one. -/
def tiedRules : List Rule :=
  [{ id := "low", service := "any", pattern := "S", confidence := 40 },
    { id := "broken", service := "none", pattern := "(", confidence := 99 },
    { id := "twin", service := "ssh", pattern := "SSH-([12])", version := "$1", confidence := 70 },
    { id := "other", service := "ftp", pattern := "220", confidence := 90 },
    { id := "twin", service := "dash", pattern := "-", confidence := 70 }]

/-- Four of the five rules are tried and three of them are found. -/
theorem rankedFindings_tiedRules :
    let rules := (compileBatch { now := "2024-01-01 00:00:00" } {} tiedRules).1.rules
    "SSH-2.0" ≠ "" ∧
      rules.map (fun c => c.isFoundIn "SSH-2.0") = [true, false, true, false, true] ∧
      rules.countP CompiledRule.isActive = 4 ∧
      RankedFindings rules "SSH-2.0" true (analyze rules "SSH-2.0" true) := by
  intro rules
  have hne : "SSH-2.0" ≠ "" := by decide
  exact ⟨hne, by decide +kernel, by decide +kernel, rankedFindings_analyze rules "SSH-2.0" hne true⟩

end BannerMatch
