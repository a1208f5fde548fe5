import BannerMatch.Proofs.Engine.History
import BannerMatch.Proofs.Probe.Rules
import BannerMatch.Proofs.Probe.Source

/-!
# Soft matches rank below hard ones

A softmatch line gives its rule the reduced confidence, at least the floor and at most `100`; with
a floor no higher than the confidence of match lines it is never above theirs. But a rule that is
loaded with confidence zero counts as a rule without one, and gets the default. So an engine keeps
soft matches below hard ones, for every probe file, exactly if the reduced confidence does not come
out as zero, or the default is no higher than the confidence of match lines (`softBelowHard_iff`).
-/

namespace BannerMatch

/-- The confidence that a rule is held with: zero stands for the default. -/
def heldConfidence (default confidence : UInt8) : UInt8 :=
  if confidence = 0 then default else confidence

namespace Probe

/-- The confidence that a match line gives its rule. -/
def Entry.confidence (e : Entry) (options : Options) : UInt8 :=
  if e.soft then options.softConfidence else options.hardConfidence

/-- The match lines of a source, in order. -/
def Source.entries (source : Source) : List Entry :=
  entriesOf ((Text.byteLines source.bytes).map Text.decode)

/-- What a compiled rule has from its match line. -/
structure Entry.HeldAs (e : Entry) (options : Options) (default : UInt8) (c : CompiledRule) :
    Prop where
  service : c.rule.service = String.ofList e.service
  pattern : c.rule.pattern = String.ofList (unescape e.body)
  confidence : c.rule.confidence = heldConfidence default (e.confidence options)

/-- **Every match line has its compiled rule**, in the order of the lines. -/
theorem forall₂_compileFrom_importFrom (options : Options) (p : Place) (lines : List (List Char))
    (defaults : RuleDefaults) (taken : List String) (ids : IdSource) :
    List.Forall₂ (fun e c => e.HeldAs options defaults.confidence c) (entriesOf lines)
      (compileFrom defaults taken ids (importFrom options p lines).rules).1.rules := by
  induction lines generalizing p taken ids with
  | nil => exact .nil
  | cons raw rest ih =>
    rw [importFrom, entriesOf, List.filterMap_cons]
    cases hline : Outcome.ofLine (Text.trim raw) with
    | entry e =>
      have hvalid := (isComplete_of_ofLine hline).checkFields_rule options (p.rules + 1) p.probe
      show List.Forall₂ _ (e :: entriesOf rest)
        (compileFrom defaults taken ids (e.rule options (p.rules + 1) p.probe ::
          (importFrom options (p.after (.entry e)) rest).rules)).1.rules
      rw [compileFrom, hvalid]
      refine .cons ?_ (ih (p.after (.entry e)) _ _)
      exact
        { service := e.service_rule _ _ _
          pattern := e.pattern_rule _ _ _
          confidence := congrArg (heldConfidence _) (e.confidence_rule _ _ _) }
    | blank => exact ih (p.after .blank) taken ids
    | ignored => exact ih (p.after .ignored) taken ids
    | probe name => exact ih (p.after (.probe name)) taken ids
    | faulty f => exact ih (p.after (.faulty f)) taken ids

end Probe

namespace Engine

/-- The rules are those of the match lines, in order, and none of a softmatch line has a higher
confidence than one of a match line. -/
structure SoftBelowHard (entries : List Probe.Entry) (rules : List CompiledRule) : Prop where
  aligned : List.Forall₂ (fun e c => c.rule.service = String.ofList e.service ∧
    c.rule.pattern = String.ofList (Probe.unescape e.body)) entries rules
  le : ∀ p ∈ entries.zip rules, ∀ q ∈ entries.zip rules, p.1.soft = true → q.1.soft = false →
    p.2.rule.confidence ≤ q.2.rule.confidence

/-- Bytes that can be read are loaded. -/
theorem exists_loadProbes (e : Engine) (now : Moment) (bytes : List UInt8) :
    ∃ reports after, e.loadProbes now { bytes := bytes } = .ok (reports, after) := by
  rw [loadProbes, Probe.importSource_of_readable]
  exact ⟨_, _, rfl⟩

/-- **After a probe file is loaded**, the engine has a rule for each of its match lines. -/
theorem heldAs_of_loadProbes {e after : Engine} {now : Moment} {source : Probe.Source}
    {reports : Probe.Report × LoadReport} (h : e.loadProbes now source = .ok (reports, after)) :
    List.Forall₂ (fun entry c => entry.HeldAs e.config.probes e.registry.defaultConfidence c)
      source.entries after.registry.rules := by
  rw [loadProbes] at h
  cases hread : Probe.importSource e.config.probes source with
  | error f => rw [hread] at h; cases h
  | ok report =>
    rw [hread] at h
    cases h
    rw [(Probe.eq_importFrom_of_importSource _ hread).2]
    exact Probe.forall₂_compileFrom_importFrom e.config.probes {} _
      (e.registry.defaults now.stamp) _ _

/-- The order of held confidences decides the order of the rules. -/
theorem softBelowHard_of_le {options : Probe.Options} {default : UInt8}
    {entries : List Probe.Entry} {rules : List CompiledRule}
    (hheld : List.Forall₂ (fun e c => Probe.Entry.HeldAs e options default c) entries rules)
    (hle : heldConfidence default options.softConfidence ≤
      heldConfidence default options.hardConfidence) : SoftBelowHard entries rules where
  aligned := hheld.imp fun _ _ h => ⟨h.service, h.pattern⟩
  le p hp q hq hsoft hhard := by
    have hp := (List.forall₂_zip hheld hp).confidence
    have hq := (List.forall₂_zip hheld hq).confidence
    rw [Probe.Entry.confidence, hsoft, if_pos rfl] at hp
    rw [Probe.Entry.confidence, hhard, if_neg Bool.false_ne_true] at hq
    rw [hp, hq]
    exact hle

/-- A file with one line of each kind. -/
def bothKinds : List UInt8 := Text.encode "match a m|x|\nsoftmatch a m|x|".toList

theorem soft_entries_bothKinds :
    (Probe.Source.entries { bytes := bothKinds }).map Probe.Entry.soft = [false, true] := by
  decide +kernel

/-- The rules of that file show how the two confidences are ordered. -/
theorem heldConfidence_le_of_bothKinds {options : Probe.Options} {default : UInt8}
    {rules : List CompiledRule}
    (hheld : List.Forall₂ (fun e c => Probe.Entry.HeldAs e options default c)
      (Probe.Source.entries { bytes := bothKinds }) rules)
    (hbelow : SoftBelowHard (Probe.Source.entries { bytes := bothKinds }) rules) :
    heldConfidence default options.softConfidence ≤
      heldConfidence default options.hardConfidence := by
  obtain ⟨hard, rest, hentries, hhard, hrest⟩ := List.map_eq_cons_iff.mp soft_entries_bothKinds
  obtain ⟨soft, others, rfl, hsoft, hnil⟩ := List.map_eq_cons_iff.mp hrest
  rw [List.map_eq_nil_iff.mp hnil] at hentries
  rw [hentries] at hbelow hheld
  obtain ⟨hardRule, _, hheldHard, htail, hrules⟩ := List.forall₂_cons_left_iff.mp hheld
  obtain ⟨softRule, _, hheldSoft, -, rfl⟩ := List.forall₂_cons_left_iff.mp htail
  have hle := hbelow.le (soft, softRule) (by simp [hrules]) (hard, hardRule) (by simp [hrules])
    hsoft hhard
  have hsoftConfidence := hheldSoft.confidence
  have hhardConfidence := hheldHard.confidence
  rw [Probe.Entry.confidence, hsoft, if_pos rfl] at hsoftConfidence
  rw [Probe.Entry.confidence, hhard, if_neg Bool.false_ne_true] at hhardConfidence
  rwa [hsoftConfidence, hhardConfidence] at hle

/-- Zero is what the saturating subtraction can come to, and what the default replaces. -/
theorem heldConfidence_le_iff {options : Probe.Options} (hfloor : options.floor ≤ options.hard)
    (default : UInt8) :
    heldConfidence default options.softConfidence ≤
        heldConfidence default options.hardConfidence ↔
      (options.softConfidence = 0 →
        options.hardConfidence = 0 ∨ default ≤ options.hardConfidence) := by
  have hle : options.softConfidence ≤ options.hardConfidence := by
    rw [UInt8.le_iff_toNat_le] at hfloor ⊢
    rw [options.toNat_softConfidence, options.toNat_hardConfidence]
    omega
  unfold heldConfidence
  by_cases hsoft : options.softConfidence = 0
  · by_cases hhard : options.hardConfidence = 0
    · simp [hsoft, hhard]
    · simp [hsoft, hhard]
  · have hhard : options.hardConfidence ≠ 0 := by
      intro hzero
      rw [hzero, UInt8.le_iff_toNat_le] at hle
      exact hsoft (UInt8.toNat_inj.mp (Nat.le_zero.mp hle))
    simp [hsoft, hhard, hle]

/-- **No soft match ranks above a hard match of the same file, for any file and after any history,
exactly if the reduced confidence is not zero, or match lines have no confidence either, or the
default is no higher than theirs.** -/
theorem softBelowHard_iff (config : Config) (hfloor : config.probes.floor ≤ config.probes.hard)
    (ttl : ℕ) :
    (∀ history now bytes, ∃ reports after,
      ((start config ttl).run history).2.loadProbes now { bytes := bytes } =
          .ok (reports, after) ∧
        SoftBelowHard (Probe.Source.entries { bytes := bytes }) after.registry.rules) ↔
      (config.probes.softConfidence = 0 → config.probes.hardConfidence = 0 ∨
        config.defaultConfidence ≤ config.probes.hardConfidence) := by
  rw [← heldConfidence_le_iff hfloor config.defaultConfidence]
  constructor
  · intro h
    obtain ⟨reports, after, hload, hbelow⟩ := h [] ⟨0, ""⟩ bothKinds
    exact heldConfidence_le_of_bothKinds (heldAs_of_loadProbes hload) hbelow
  · intro hle history now bytes
    obtain ⟨hconfig, hdefault⟩ := run_settings (start config ttl) history
    obtain ⟨reports, after, hload⟩ := exists_loadProbes ((start config ttl).run history).2 now bytes
    have hheld := heldAs_of_loadProbes hload
    rw [hconfig, hdefault] at hheld
    exact ⟨reports, after, hload, softBelowHard_of_le hheld hle⟩

/-- The standard configuration, and a file whose softmatch line comes first. -/
theorem softBelowHard_standard :
    ({} : Config).probes.floor ≤ ({} : Config).probes.hard ∧
      ∃ reports after, (start {} 100).loadProbes ⟨0, "2024-01-01 00:00:00"⟩
          { bytes := Text.encode "softmatch a m|x| p/Soft/
match a m|x| p/Hard/".toList } =
            .ok (reports, after) ∧
        SoftBelowHard (Probe.Source.entries
          { bytes := Text.encode "softmatch a m|x| p/Soft/
match a m|x| p/Hard/".toList })
          after.registry.rules :=
  ⟨by decide, (softBelowHard_iff {} (by decide) 100).mpr (by decide) [] _ _⟩

/-- A penalty that takes away all of the confidence of match lines: the softmatch line, whose
confidence comes out as zero, ranks above the match line. -/
def harshConfig : Config := { probes := { hard := 10, penalty := 10, floor := 0 } }

theorem not_softBelowHard_harshConfig :
    harshConfig.probes.floor ≤ harshConfig.probes.hard ∧
      ∃ reports after, (start harshConfig 100).loadProbes ⟨0, "2024-01-01 00:00:00"⟩
          { bytes := bothKinds } = .ok (reports, after) ∧
        after.rules.map (fun r => (r.id, r.confidence)) = [("nmap_1", 10), ("nmap_soft_2", 80)] ∧
        ¬ SoftBelowHard (Probe.Source.entries { bytes := bothKinds }) after.registry.rules := by
  refine ⟨by decide, _, _, rfl, by decide +kernel, fun hbelow => ?_⟩
  have hle := heldConfidence_le_of_bothKinds
    (heldAs_of_loadProbes rfl) hbelow
  exact absurd hle (by decide)

end Engine
end BannerMatch
