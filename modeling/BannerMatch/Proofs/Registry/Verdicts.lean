import BannerMatch.Proofs.Registry.Changes
import BannerMatch.Proofs.Registry.Loads

/-!
# One verdict on a rule

A rule is judged in three places: by its check, by a load and by an addition. The check foretells the
fate of the rule in a load (`Fate.check_eq_ok_iff` and the two theorems after it), and an addition
follows the check as long as the identifier is not in use (`add_eq_ok_iff`, `add_eq_error_iff`). So
all three agree on every rule: `judgesAlike`.
-/

namespace BannerMatch

/-! ### The check -/

/-- The check of the fields never finds a fault in the pattern. -/
theorem Rule.checkFields_ne_invalidPattern (r : Rule) (f : PatternFault) :
    r.checkFields ≠ .error (.invalidPattern f) := by
  rw [Rule.checkFields]
  split
  · simp
  split
  · simp
  split
  · simp
  · simp

variable {defaults : RuleDefaults} {given : Rule} {fate : Option CompiledRule × Option Diagnostic}

/-- A rule passes the check exactly if there is no remark on it, -/
theorem Fate.check_eq_ok_iff (h : Fate defaults given fate) :
    given.check = .ok () ↔ fate.2 = none := by
  cases h with
  | leftOut invalid => simp [Rule.check, invalid]
  | active valid _ compiles => simp [Rule.check, valid, compiles]
  | inert valid _ broken => simp [Rule.check, valid, broken]

/-- fails it for its pattern exactly if it is kept inert, -/
theorem Fate.check_eq_invalidPattern_iff (h : Fate defaults given fate) (f : PatternFault) :
    given.check = .error (.invalidPattern f) ↔ ∃ held, given.Completes defaults held ∧
      fate = (some ⟨held, .error f⟩, some ⟨held.id, .inert ⟨given.pattern, f⟩⟩) := by
  cases h with
  | leftOut invalid =>
    rw [Rule.check, invalid]
    constructor
    · intro hf
      cases hf
      exact absurd invalid (given.checkFields_ne_invalidPattern f)
    · rintro ⟨held, -, hfate⟩
      cases hfate
  | active valid _ compiles => simp [Rule.check, valid, compiles]
  | inert valid completes broken =>
    rw [Rule.check, valid, broken]
    constructor
    · intro hf
      cases hf
      exact ⟨_, completes, rfl⟩
    · rintro ⟨held, -, hfate⟩
      cases hfate
      rfl

/-- and fails it for another reason exactly if it is left out. -/
theorem Fate.check_eq_error_iff (h : Fate defaults given fate) (f : RuleFault) :
    (given.check = .error f ∧ ∀ g, f ≠ .invalidPattern g) ↔
      fate = (none, some ⟨given.id, .invalid f⟩) := by
  cases h with
  | leftOut invalid =>
    rw [Rule.check, invalid]
    constructor
    · rintro ⟨hf, -⟩
      cases hf
      rfl
    · intro hfate
      cases hfate
      exact ⟨rfl, fun g hg => given.checkFields_ne_invalidPattern g (hg ▸ invalid)⟩
  | active valid _ compiles => simp [Rule.check, valid, compiles]
  | inert valid _ broken =>
    rw [Rule.check, valid, broken]
    constructor
    · rintro ⟨hf, hother⟩
      cases hf
      exact absurd rfl (hother _)
    · intro hfate
      cases hfate

namespace Registry

variable (r : Registry) (now : String) (rule : Rule)

/-! ### Loads of one rule -/

/-- A load of this rule alone keeps it, but inert: its pattern has a fault. -/
def KeepsInert (f : PatternFault) : Prop :=
  ∃ held, rule.Completes (r.defaults now) held ∧
    (r.load now [rule]).2.rules = [⟨held, .error f⟩] ∧
    (r.load now [rule]).1.diagnostics = [⟨held.id, .inert ⟨rule.pattern, f⟩⟩]

/-- A load of this rule alone leaves it out, for a fault. -/
def LeavesOut (f : RuleFault) : Prop :=
  (r.load now [rule]).2.rules = [] ∧
    (r.load now [rule]).1.diagnostics = [⟨rule.id, .invalid f⟩]

/-- A load of one rule comes to the fate of that rule. -/
theorem exists_fate_load :
    ∃ fate, Fate (r.defaults now) rule fate ∧ (r.load now [rule]).2.rules = fate.1.toList ∧
      (r.load now [rule]).1.diagnostics = fate.2.toList := by
  obtain ⟨fates, hfates, hrules, hremarks⟩ := (r.loadedFrom_load now [rule]).fates
  cases hfates with
  | cons hfate hnone =>
    cases hnone
    refine ⟨_, hfate, hrules.trans ?_, hremarks.trans ?_⟩
    · cases hfate <;> rfl
    · cases hfate <;> rfl

theorem keepsInert_iff (f : PatternFault) :
    r.KeepsInert now rule f ↔ rule.check = .error (.invalidPattern f) := by
  obtain ⟨⟨kept, remark⟩, hfate, hrules, hremarks⟩ := r.exists_fate_load now rule
  rw [hfate.check_eq_invalidPattern_iff, KeepsInert, hrules, hremarks]
  simp [Option.toList_eq_singleton_iff]

theorem leavesOut_iff (f : RuleFault) :
    r.LeavesOut now rule f ↔ rule.check = .error f ∧ ∀ g, f ≠ .invalidPattern g := by
  obtain ⟨⟨kept, remark⟩, hfate, hrules, hremarks⟩ := r.exists_fate_load now rule
  rw [hfate.check_eq_error_iff, LeavesOut, hrules, hremarks]
  simp [Option.toList_eq_singleton_iff]

theorem diagnostics_eq_nil_iff :
    (r.load now [rule]).1.diagnostics = [] ↔ rule.check = .ok () := by
  obtain ⟨fate, hfate, -, hremarks⟩ := r.exists_fate_load now rule
  rw [hfate.check_eq_ok_iff, hremarks, Option.toList_eq_nil_iff]

/-! ### Additions -/

variable {r now rule}

/-- As long as the identifier is not in use, an addition follows the check. -/
theorem add_cases_of_free (now : String) (hfree : rule.id ∉ r.usedIds) :
    (rule.check = .ok () ∧ ∃ id after, r.add now rule = (.ok id, after)) ∨
    ∃ f, rule.check = .error f ∧ r.add now rule = (.error (.invalidRule f), r) := by
  rcases r.add_cases now rule with
    ⟨f, hcheck, hadd⟩ | ⟨-, hused, -⟩ | ⟨hcheck, -, c, -, hadd⟩
  · exact .inr ⟨f, hcheck, hadd⟩
  · exact absurd hused hfree
  · exact .inl ⟨hcheck, _, _, hadd⟩

theorem add_eq_ok_iff (hfree : rule.id ∉ r.usedIds) :
    (∃ id after, r.add now rule = (.ok id, after)) ↔ rule.check = .ok () := by
  rcases add_cases_of_free now hfree with ⟨hcheck, hadded⟩ | ⟨f, hcheck, hrefused⟩
  · exact iff_of_true hadded hcheck
  · simp [hcheck, hrefused]

theorem add_eq_error_iff (hfree : rule.id ∉ r.usedIds) (failure : Failure) :
    r.add now rule = (.error failure, r) ↔
      ∃ f, rule.check = .error f ∧ failure = .invalidRule f := by
  rcases add_cases_of_free now hfree with ⟨hcheck, id, after, hadded⟩ | ⟨f, hcheck, hrefused⟩
  · simp [hcheck, hadded]
  · simp [hcheck, hrefused, eq_comm]

/-! ### All of them -/

/-- The check of a rule, a load of it alone and its addition come to the same verdict. -/
structure JudgesAlike (r : Registry) (now : String) (rule : Rule) : Prop where
  accepted : rule.check = .ok () ↔ (r.load now [rule]).1.diagnostics = []
  inert : ∀ f, rule.check = .error (.invalidPattern f) ↔ r.KeepsInert now rule f
  leftOut : ∀ f, (rule.check = .error f ∧ ∀ g, f ≠ .invalidPattern g) ↔ r.LeavesOut now rule f
  added : rule.hasBlankId = true ∨ rule.id ∉ r.usedIds →
    ((∃ id after, r.add now rule = (.ok id, after)) ↔ rule.check = .ok ())
  refused : rule.hasBlankId = true ∨ rule.id ∉ r.usedIds → ∀ failure,
    r.add now rule = (.error failure, r) ↔
      ∃ f, rule.check = .error f ∧ failure = .invalidRule f

/-- **One verdict on every rule**, as long as no rule in the registry has a blank identifier. -/
theorem judgesAlike (hnamed : ∀ c ∈ r.rules, c.rule.hasBlankId = false) :
    r.JudgesAlike now rule := by
  have hfree : rule.hasBlankId = true ∨ rule.id ∉ r.usedIds → rule.id ∉ r.usedIds := by
    rintro (hblank | hfree) hused
    · obtain ⟨c, hc, hid⟩ := List.mem_map.mp hused
      have hcblank : c.rule.hasBlankId = rule.hasBlankId := congrArg Text.isAllBlank hid
      rw [hnamed c hc, hblank] at hcblank
      cases hcblank
    · exact hfree hused
  exact
    { accepted := (r.diagnostics_eq_nil_iff now rule).symm
      inert := fun f => (r.keepsInert_iff now rule f).symm
      leftOut := fun f => (r.leavesOut_iff now rule f).symm
      added := fun h => add_eq_ok_iff (hfree h)
      refused := fun h => add_eq_error_iff (hfree h) }

end Registry
end BannerMatch
