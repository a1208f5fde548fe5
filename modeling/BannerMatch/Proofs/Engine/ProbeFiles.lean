import BannerMatch.Proofs.Engine.SoftMatches
import BannerMatch.Proofs.Rule.Batches

/-!
# Loading probe files

Whatever bytes a probe file has and whatever confidences the options give, none of its rules is left
out when they are loaded: each has valid fields and an identifier of its own, which the engine keeps
(`loadProbes_of_readable`).
-/

namespace BannerMatch

namespace Probe

/-- What a rule has that is read from a match line. -/
structure IsLoadable (r : Rule) : Prop where
  service : Text.isAllBlank r.service = false
  pattern : r.pattern ≠ ""
  confidence : r.confidence ≤ 100
  named : r.hasBlankId = false

/-- The fields of such a rule are valid. -/
theorem IsLoadable.hasValidFields {r : Rule} (hr : IsLoadable r) : r.hasValidFields = true := by
  rw [Rule.hasValidFields_iff, Rule.checkFields_eq_ok_iff]
  refine ⟨hr.service, ?_, hr.confidence⟩
  rw [← Bool.not_eq_true, String.isEmpty_iff]
  exact hr.pattern

/-- The identifier of a match line has an underscore. -/
theorem Entry.isAllBlank_ruleId (e : Entry) (n : ℕ) : Text.isAllBlank (e.ruleId n) = false := by
  refine Text.isAllBlank_of_underscore ?_
  rw [Entry.ruleId]
  cases e.soft <;> simp

theorem Entry.IsComplete.isLoadable_rule {e : Entry} (h : e.IsComplete) (options : Options)
    (n : ℕ) (probe : Option (List Char)) : IsLoadable (e.rule options n probe) := by
  obtain ⟨hservice, hpattern, hconfidence⟩ :=
    (Rule.checkFields_eq_ok_iff _).mp (h.checkFields_rule options n probe)
  refine ⟨hservice, ?_, hconfidence, ?_⟩
  · rw [← Bool.not_eq_true, String.isEmpty_iff] at hpattern
    exact hpattern
  · rw [Rule.hasBlankId, Entry.id_rule]
    exact e.isAllBlank_ruleId n

/-- **Every rule of a probe file can be loaded.** -/
theorem isLoadable_of_mem_importFrom (options : Options) (p : Place) (lines : List (List Char)) :
    ∀ r ∈ (importFrom options p lines).rules, IsLoadable r := by
  induction lines generalizing p with
  | nil => simp [importFrom]
  | cons raw rest ih =>
    rw [importFrom]
    cases hline : Outcome.ofLine (Text.trim raw) with
    | entry e =>
      refine List.forall_mem_cons.mpr ⟨?_, ih (p.after (.entry e))⟩
      exact (isComplete_of_ofLine hline).isLoadable_rule _ _ _
    | blank => exact ih (p.after .blank)
    | ignored => exact ih (p.after .ignored)
    | probe name => exact ih (p.after (.probe name))
    | faulty f => exact ih (p.after (.faulty f))

end Probe

namespace Engine

/-- All rules that were read from a probe file have been loaded; `entries` are its match lines. -/
structure LoadedAll (entries : List Probe.Entry) (read : Probe.Report) (report : LoadReport)
    (after : Engine) : Prop where
  none_skipped : report.skipped = 0
  all_loaded : report.loaded = read.rules.length
  loadable : ∀ r ∈ read.rules, Probe.IsLoadable r
  distinct : (read.rules.map Rule.id).Nodup
  /-- There is a rule for each match line, numbered in the order of the file. -/
  in_order : read.rules.map Rule.id = (entries.zipIdx 1).map fun entry => entry.1.ruleId entry.2
  /-- The engine has the identifiers as they were read. -/
  ids_kept : after.rules.map Rule.id = read.rules.map Rule.id

/-- **Every probe file that can be read is loaded as a whole**, whatever the options are. -/
theorem loadProbes_of_readable (e : Engine) (now : Moment) (bytes : List UInt8) :
    ∃ read report after, e.loadProbes now { bytes := bytes } = .ok ((read, report), after) ∧
      Probe.importSource e.config.probes { bytes := bytes } = .ok read ∧
      LoadedAll (Probe.Source.entries { bytes := bytes }) read report after := by
  rw [loadProbes, Probe.importSource_of_readable]
  set read := Probe.importFrom e.config.probes {} ((Text.byteLines bytes).map Text.decode)
  have hloadable : ∀ r ∈ read.rules, Probe.IsLoadable r :=
    Probe.isLoadable_of_mem_importFrom _ _ _
  have hvalid : read.rules.filter Rule.hasValidFields = read.rules :=
    List.filter_eq_self.mpr fun r hr => (hloadable r hr).hasValidFields
  have hinvalid : read.rules.filter (fun r => !r.hasValidFields) = [] :=
    List.filter_eq_nil_iff.mpr fun r hr => by simp [(hloadable r hr).hasValidFields]
  refine ⟨read, _, _, rfl, rfl, ?_⟩
  constructor
  · exact (skipped_compileFrom read.rules).trans (congrArg List.length hinvalid)
  · exact (loaded_compileFrom read.rules).trans (congrArg List.length hvalid)
  · exact hloadable
  · exact Probe.nodup_ids_importFrom _ _ _
  · exact Probe.ids_importFrom _ _ _
  · have hids := @ids_compileFrom_of_named (e.registry.defaults now.stamp)
      (givenIds read.rules) e.registry.ids read.rules fun r hr => (hloadable r hr).named
    rw [hvalid] at hids
    rw [← hids, rules, Registry.ruleList, List.map_map]
    rfl

end Engine

end BannerMatch
