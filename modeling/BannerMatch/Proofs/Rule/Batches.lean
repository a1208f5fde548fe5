import BannerMatch.Proofs.Rule.Identifiers
import BannerMatch.Registry.Basic

/-!
# What becomes of a batch

A batch keeps its valid rules and leaves out the others, and its report counts them
(`loaded_compileFrom`, `skipped_compileFrom`). A valid rule that gives itself an identifier is found
under it (`ids_compileFrom_of_named`).
-/

namespace BannerMatch

/-! ### One rule -/

namespace Batch

variable (b : Batch) (c : CompiledRule) (r : Rule) (f : RuleFault)

@[simp] theorem loaded_keep : (b.keep c).report.loaded = b.report.loaded + 1 := rfl

/-- A rule that is kept is not left out, even if it is inert. -/
@[simp] theorem skipped_keep : (b.keep c).report.skipped = b.report.skipped := by
  rw [report, keep]
  cases c.fault? with
  | none => rfl
  | some fault => rfl

@[simp] theorem loaded_skip : (b.skip r f).report.loaded = b.report.loaded := rfl

@[simp] theorem skipped_skip : (b.skip r f).report.skipped = b.report.skipped + 1 := rfl

end Batch

theorem Rule.hasValidFields_iff {r : Rule} : r.hasValidFields = true ↔ r.checkFields = .ok () := by
  rw [hasValidFields]
  split
  · rename_i h
    simp [h]
  · rename_i h
    simp [h]

/-! ### All rules -/

variable {defaults : RuleDefaults} {taken : List String} {ids : IdSource}

/-- **The rules that are kept** are counted. -/
theorem loaded_compileFrom (rules : List Rule) :
    (compileFrom defaults taken ids rules).1.report.loaded =
      (rules.filter Rule.hasValidFields).length := by
  induction rules generalizing taken ids with
  | nil => rfl
  | cons r rest ih =>
    rw [compileFrom]
    cases hr : r.checkFields with
    | error f => simp [Rule.hasValidFields, hr, ih]
    | ok u => simp [Rule.hasValidFields, hr, ih]

/-- **The rules that are left out** are counted. -/
theorem skipped_compileFrom (rules : List Rule) :
    (compileFrom defaults taken ids rules).1.report.skipped =
      (rules.filter fun r => !r.hasValidFields).length := by
  induction rules generalizing taken ids with
  | nil => rfl
  | cons r rest ih =>
    rw [compileFrom]
    cases hr : r.checkFields with
    | error f => simp [Rule.hasValidFields, hr, ih]
    | ok u => simp [Rule.hasValidFields, hr, ih]

/-- **Identifiers that rules give themselves** stay as they are, in the order of the rules. -/
theorem ids_compileFrom_of_named {rules : List Rule}
    (hnamed : ∀ r ∈ rules, r.hasBlankId = false) :
    (compileFrom defaults taken ids rules).1.ids =
      (rules.filter Rule.hasValidFields).map Rule.id := by
  induction rules generalizing taken ids with
  | nil => rfl
  | cons r rest ih =>
    obtain ⟨hr, hrest⟩ := List.forall_mem_cons.mp hnamed
    cases hvalid : r.hasValidFields with
    | false =>
      rw [compileFrom_cons_of_invalid hvalid, ih hrest, List.filter_cons_of_neg (by simp [hvalid])]
    | true =>
      obtain ⟨id, ids', hid, heq⟩ := compileFrom_cons_of_valid defaults taken ids hvalid rest
      rw [hr, if_neg (by simp)] at hid
      rw [heq, ih hrest, hid, List.filter_cons_of_pos hvalid, List.map_cons]

end BannerMatch
