import BannerMatch.Proofs.Rule.Assigned

/-!
# What becomes of loaded rules

A load keeps the valid rules in their order and fills in what they leave open, and it remarks on the
others and on the inert ones among those that it keeps: `loadedFrom_load`. `Fate` is what becomes of
one rule; the fates of all rules together are what the registry holds and what the report says
(`exists_fates`).
-/

namespace BannerMatch

/-- The rule with what it leaves open filled in, the identifier apart. -/
def Rule.filledIn (r : Rule) (defaults : RuleDefaults) : Rule :=
  { r with
    confidence := if r.confidence = 0 then defaults.confidence else r.confidence
    createTime := if r.createTime.isEmpty then defaults.now else r.createTime }

/-- The rule `held` is the given one with what that leaves open filled in. -/
structure Rule.Completes (defaults : RuleDefaults) (given held : Rule) : Prop where
  named : given.hasBlankId = false → held.id = given.id
  others : held = { given.filledIn defaults with id := held.id }

/-- What becomes of a rule of a batch: what is kept of it, and the remark on it. -/
inductive Fate (defaults : RuleDefaults) (given : Rule) :
    Option CompiledRule × Option Diagnostic → Prop
  | leftOut {f : RuleFault} (invalid : given.checkFields = .error f) :
      Fate defaults given (none, some ⟨given.id, .invalid f⟩)
  | active {held : Rule} {p : Pattern} (valid : given.checkFields = .ok ())
      (completes : given.Completes defaults held)
      (compiles : Pattern.compile given.pattern = .ok p) :
      Fate defaults given (some ⟨held, .ok p⟩, none)
  | inert {held : Rule} {f : PatternFault} (valid : given.checkFields = .ok ())
      (completes : given.Completes defaults held)
      (broken : Pattern.compile given.pattern = .error f) :
      Fate defaults given (some ⟨held, .error f⟩, some ⟨held.id, .inert ⟨given.pattern, f⟩⟩)

/-- A registry was loaded with rules, and nothing was lost or invented. -/
structure Registry.LoadedFrom (r : Registry) (now : String) (rules : List Rule)
    (report : LoadReport) (after : Registry) : Prop where
  kept : List.Forall₂ (Rule.Completes (r.defaults now)) (rules.filter Rule.hasValidFields)
    after.ruleList
  /-- Identifiers that rules leave open are drawn from the source, and no other rule has them. -/
  assigned : AssignsFresh (givenIds rules) r.ids after.ids
    ((rules.filter Rule.hasValidFields).zip after.rules)
  loaded : report.loaded = after.ruleList.length
  counted : report.loaded + report.skipped = rules.length
  inert : report.inert = after.rules.countP fun c => !c.isActive
  remarks : report.diagnostics.length = report.inert + report.skipped
  /-- Rule by rule, in the order in which they were given. -/
  fates : ∃ fates, List.Forall₂ (Fate (r.defaults now)) rules fates ∧
    after.rules = fates.filterMap Prod.fst ∧ report.diagnostics = fates.filterMap Prod.snd

/-! ### One rule -/

variable {defaults : RuleDefaults} {taken : List String} {ids : IdSource}

theorem Rule.completes_compile (r : Rule) :
    r.Completes defaults (r.compile defaults taken ids).1.rule where
  named hnamed := by
    have hid : (r.compile defaults taken ids).1.id = _ := r.id_compile
    rwa [hnamed, if_neg Bool.false_ne_true] at hid
  others := rfl

/-- A valid rule is kept, with a remark if its pattern cannot be compiled. -/
theorem Rule.fate_compile {r : Rule} (hr : r.checkFields = .ok ()) :
    Fate defaults r (some (r.compile defaults taken ids).1,
      (r.compile defaults taken ids).1.fault?.map
        fun f => ⟨(r.compile defaults taken ids).1.id, .inert f⟩) := by
  have hcompletes : r.Completes defaults (r.compile defaults taken ids).1.rule :=
    r.completes_compile
  have hpattern : (r.compile defaults taken ids).1 =
      ⟨(r.compile defaults taken ids).1.rule, Pattern.compile r.pattern⟩ := rfl
  cases hcompile : Pattern.compile r.pattern with
  | ok p =>
    rw [hcompile] at hpattern
    rw [hpattern]
    exact .active hr hcompletes hcompile
  | error f =>
    rw [hcompile] at hpattern
    rw [hpattern]
    exact .inert hr hcompletes hcompile

/-- The rules that are kept are those with valid fields. -/
theorem Fate.hasValidFields_eq {given : Rule} {fate : Option CompiledRule × Option Diagnostic}
    (h : Fate defaults given fate) : given.hasValidFields = fate.1.isSome := by
  cases h with
  | leftOut invalid => simp [Rule.hasValidFields, invalid]
  | active valid _ _ => simp [Rule.hasValidFields, valid]
  | inert valid _ _ => simp [Rule.hasValidFields, valid]

/-! ### Batches -/

/-- **Every rule of a batch has its fate**, and these together are the batch. -/
theorem exists_fates (defaults : RuleDefaults) (rules : List Rule) (taken : List String)
    (ids : IdSource) :
    ∃ fates, List.Forall₂ (Fate defaults) rules fates ∧
      (compileFrom defaults taken ids rules).1.rules = fates.filterMap Prod.fst ∧
      (compileFrom defaults taken ids rules).1.diagnostics = fates.filterMap Prod.snd := by
  induction rules generalizing taken ids with
  | nil => exact ⟨[], .nil, rfl, rfl⟩
  | cons r rest ih =>
    rw [compileFrom]
    cases hr : r.checkFields with
    | error f =>
      obtain ⟨fates, hfates, hrules, hremarks⟩ := ih taken ids
      exact ⟨_, .cons (.leftOut hr) hfates, hrules, congrArg (_ :: ·) hremarks⟩
    | ok u =>
      obtain ⟨fates, hfates, hrules, hremarks⟩ :=
        ih ((r.compile defaults taken ids).1.id :: taken) (r.compile defaults taken ids).2
      refine ⟨_, .cons (Rule.fate_compile hr) hfates, congrArg (_ :: ·) hrules, ?_⟩
      show (Batch.keep _ _).diagnostics = _
      rw [Batch.keep, List.filterMap_cons, hremarks]
      cases (r.compile defaults taken ids).1.fault? with
      | none => rfl
      | some f => rfl

/-- The rules that are kept are the valid ones, completed. -/
theorem forall₂_completes_of_fates {rules : List Rule}
    {fates : List (Option CompiledRule × Option Diagnostic)}
    (h : List.Forall₂ (Fate defaults) rules fates) :
    List.Forall₂ (Rule.Completes defaults) (rules.filter Rule.hasValidFields)
      ((fates.filterMap Prod.fst).map CompiledRule.rule) := by
  induction h with
  | nil => exact .nil
  | cons hfate _ ih =>
    have hvalid := hfate.hasValidFields_eq
    cases hfate with
    | leftOut _ => rwa [List.filter_cons_of_neg (by simp [hvalid])]
    | active _ completes _ =>
      rw [List.filter_cons_of_pos hvalid]
      exact .cons completes ih
    | inert _ completes _ =>
      rw [List.filter_cons_of_pos hvalid]
      exact .cons completes ih

/-- The remarks on rules that are kept are those on inert ones. -/
theorem countP_isInert_of_fates {rules : List Rule}
    {fates : List (Option CompiledRule × Option Diagnostic)}
    (h : List.Forall₂ (Fate defaults) rules fates) :
    (fates.filterMap Prod.snd).countP Diagnostic.isInert =
      (fates.filterMap Prod.fst).countP fun c => !c.isActive := by
  induction h with
  | nil => rfl
  | cons hfate _ ih =>
    cases hfate with
    | leftOut _ => exact (List.countP_cons_of_neg (by simp [Diagnostic.isInert])).trans ih
    | active _ _ _ =>
      exact ih.trans (List.countP_cons_of_neg (by simp [CompiledRule.isActive])).symm
    | inert _ _ _ =>
      refine (List.countP_cons_of_pos rfl).trans ?_
      rw [ih]
      exact (List.countP_cons_of_pos rfl).symm

/-! ### Loads -/

/-- **A load loses and invents nothing**, whatever was in the registry. -/
theorem Registry.loadedFrom_load (r : Registry) (now : String) (rules : List Rule) :
    r.LoadedFrom now rules (r.load now rules).1 (r.load now rules).2 := by
  obtain ⟨fates, hfates, hrules, hremarks⟩ :=
    exists_fates (r.defaults now) rules (givenIds rules) r.ids
  exact
    { kept := by
        have hkept := forall₂_completes_of_fates hfates
        rwa [← hrules] at hkept
      assigned := assignsFresh_compileFrom rules (givenIds rules) r.ids
      loaded := (List.length_map _).symm
      counted := by
        have hloaded : (r.load now rules).1.loaded = _ := loaded_compileFrom rules
        have hskipped : (r.load now rules).1.skipped = _ := skipped_compileFrom rules
        rw [hloaded, hskipped]
        exact (List.length_eq_length_filter_add _).symm
      inert := by
        have hinert := countP_isInert_of_fates hfates
        rw [← hrules, ← hremarks, List.countP_eq_length_filter] at hinert
        exact hinert
      remarks := List.length_eq_length_filter_add _
      fates := ⟨fates, hfates, hrules, hremarks⟩ }

end BannerMatch
