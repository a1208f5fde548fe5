import BannerMatch.Proofs.Text.Words
import BannerMatch.Registry.Basic

/-!
# Rules that leave nothing open

A compiled rule is `Settled` when compiling it again would change nothing: its fields are valid, and
it has an identifier, a creation time and, unless the default is zero too, a confidence. What
`Rule.compile` makes of a valid rule is settled (`settled_compile`), and a batch of settled rules is
taken over as it is (`compileBatch_of_settled`).
-/

namespace BannerMatch

/-- Nothing in the rule is left open; `confidence` is the default confidence. -/
structure CompiledRule.Settled (confidence : UInt8) (c : CompiledRule) : Prop where
  checked : c.rule.checkFields = .ok ()
  compiled : c.pattern = Pattern.compile c.rule.pattern
  named : c.rule.hasBlankId = false
  dated : c.rule.createTime.isEmpty = false
  /-- A rule without a confidence would get the default, which must be zero then. -/
  rated : c.rule.confidence = 0 → confidence = 0

/-- When the fields of a rule are valid. -/
theorem Rule.checkFields_eq_ok_iff (r : Rule) :
    r.checkFields = .ok () ↔
      Text.isAllBlank r.service = false ∧ r.pattern.isEmpty = false ∧ r.confidence ≤ 100 := by
  rw [Rule.checkFields]
  split
  · simp_all
  split
  · simp_all
  split
  · simp_all
  · simp_all

/-- A rule that is valid as a whole has valid fields. -/
theorem Rule.checkFields_of_check {r : Rule} (h : r.check = .ok ()) : r.checkFields = .ok () := by
  rw [Rule.check] at h
  split at h
  · cases h
  · assumption

theorem Text.isAllBlank_of_underscore {s : String} (h : '_' ∈ s.toList) :
    Text.isAllBlank s = false :=
  Text.isAllBlank_of_mem (Text.isBlank_of_visible (by decide) (by decide)) h

/-- Identifiers that are assigned are not blank: they have an underscore. -/
theorem IdSource.isAllBlank_name (s : IdSource) (n : Nat) :
    Text.isAllBlank (s.name n) = false :=
  Text.isAllBlank_of_underscore (by simp [IdSource.name])

variable {defaults : RuleDefaults} {taken : List String} {ids : IdSource}

/-- Compiling keeps the fields valid, if the default confidence is. -/
theorem Rule.checkFields_compile {r : Rule} (hr : r.checkFields = .ok ())
    (hconfidence : defaults.confidence ≤ 100) :
    (r.compile defaults taken ids).1.rule.checkFields = .ok () := by
  obtain ⟨hservice, hpattern, hmax⟩ := (Rule.checkFields_eq_ok_iff r).mp hr
  rw [Rule.checkFields_eq_ok_iff]
  refine ⟨hservice, hpattern, ?_⟩
  show (if r.confidence = 0 then defaults.confidence else r.confidence) ≤ 100
  split
  · exact hconfidence
  · exact hmax

/-- A compiled rule has an identifier, -/
theorem Rule.hasBlankId_compile (r : Rule) :
    (r.compile defaults taken ids).1.rule.hasBlankId = false := by
  show Text.isAllBlank (if r.hasBlankId then ids.drawUnused taken else (r.id, ids)).1 = false
  split
  · exact IdSource.isAllBlank_name _ _
  · rename_i hid
    exact (Bool.not_eq_true _).mp hid

/-- and a creation time, unless the time of day is empty. -/
theorem Rule.createTime_compile (r : Rule) (hnow : defaults.now ≠ "") :
    (r.compile defaults taken ids).1.rule.createTime.isEmpty = false := by
  show (if r.createTime.isEmpty then defaults.now else r.createTime).isEmpty = false
  split
  · rw [← Bool.not_eq_true, String.isEmpty_iff]
    exact hnow
  · rename_i htime
    exact (Bool.not_eq_true _).mp htime

/-- **Compiling settles a rule.** -/
theorem Rule.settled_compile {r : Rule} (hr : r.checkFields = .ok ())
    (hconfidence : defaults.confidence ≤ 100) (hnow : defaults.now ≠ "") :
    (r.compile defaults taken ids).1.Settled defaults.confidence where
  checked := Rule.checkFields_compile hr hconfidence
  compiled := rfl
  named := r.hasBlankId_compile
  dated := r.createTime_compile hnow
  rated := by
    -- a confidence of zero is left only where the default is zero
    show (if r.confidence = 0 then defaults.confidence else r.confidence) = 0 → _
    split
    · exact fun h => h
    · rename_i hne
      exact fun h => absurd h hne

/-- **A settled rule is compiled to itself.** -/
theorem CompiledRule.Settled.compile {c : CompiledRule} (hc : c.Settled defaults.confidence) :
    c.rule.compile defaults taken ids = (c, ids) := by
  have hconfidence : (if c.rule.confidence = 0 then defaults.confidence else c.rule.confidence) =
      c.rule.confidence := by
    split
    · rename_i h
      rw [hc.rated h, h]
    · rfl
  have hcomplete : c.rule.complete defaults taken ids = (c.rule, ids) := by
    simp only [Rule.complete, hconfidence, hc.named, hc.dated, Bool.false_eq_true, if_false]
  rw [Rule.compile, hcomplete, ← hc.compiled]

/-! ### Batches -/

/-- What compiling makes of every valid rule holds of all rules of a batch. -/
theorem forall_mem_compileFrom {P : CompiledRule → Prop}
    (hcompile : ∀ (r : Rule) (taken : List String) (ids : IdSource), r.checkFields = .ok () →
      P (r.compile defaults taken ids).1) (rules : List Rule) :
    ∀ c ∈ (compileFrom defaults taken ids rules).1.rules, P c := by
  induction rules generalizing taken ids with
  | nil => simp [compileFrom]
  | cons r rest ih =>
    rw [compileFrom]
    cases hr : r.checkFields with
    | error f => exact ih
    | ok u => exact List.forall_mem_cons.mpr ⟨hcompile r taken ids hr, ih⟩

/-- The remarks on a batch that is taken over: one on every inert rule. -/
def inertDiagnostics (cs : List CompiledRule) : List Diagnostic :=
  cs.filterMap fun c => c.fault?.map fun f => ⟨c.id, .inert f⟩

theorem compileFrom_of_settled {cs : List CompiledRule}
    (hcs : ∀ c ∈ cs, c.Settled defaults.confidence) :
    compileFrom defaults taken ids (cs.map CompiledRule.rule) =
      ({ rules := cs, diagnostics := inertDiagnostics cs }, ids) := by
  induction cs generalizing taken with
  | nil => rfl
  | cons c rest ih =>
    obtain ⟨hc, hrest⟩ := List.forall_mem_cons.mp hcs
    rw [List.map_cons, compileFrom, hc.checked]
    simp only [hc.compile, ih hrest]
    cases hfault : c.fault? with
    | none => simp [Batch.keep, inertDiagnostics, hfault]
    | some f => simp [Batch.keep, inertDiagnostics, hfault]

/-- **A batch of settled rules is taken over as it is.** -/
theorem compileBatch_of_settled (ids : IdSource) {cs : List CompiledRule}
    (hcs : ∀ c ∈ cs, c.Settled defaults.confidence) :
    compileBatch defaults ids (cs.map CompiledRule.rule) =
      ({ rules := cs, diagnostics := inertDiagnostics cs }, ids) :=
  compileFrom_of_settled hcs

theorem isInert_of_mem_inertDiagnostics {cs : List CompiledRule} {d : Diagnostic}
    (hd : d ∈ inertDiagnostics cs) : d.isInert = true := by
  obtain ⟨c, -, hc⟩ := List.mem_filterMap.mp hd
  obtain ⟨f, -, rfl⟩ := Option.map_eq_some_iff.mp hc
  rfl

/-- The report on a batch of settled rules: all are kept, and the inert ones are named. -/
theorem report_of_settled (cs : List CompiledRule) :
    Batch.report { rules := cs, diagnostics := inertDiagnostics cs } =
      { loaded := cs.length
        inert := (inertDiagnostics cs).length
        skipped := 0
        diagnostics := inertDiagnostics cs } := by
  have hall : ∀ d ∈ inertDiagnostics cs, d.isInert = true :=
    fun d hd => isInert_of_mem_inertDiagnostics hd
  have hnone : (inertDiagnostics cs).filter (fun d => !d.isInert) = [] := by
    rw [List.filter_eq_nil_iff]
    exact fun d hd => by simp [hall d hd]
  rw [Batch.report, List.filter_eq_self.mpr hall, hnone]
  rfl

end BannerMatch
