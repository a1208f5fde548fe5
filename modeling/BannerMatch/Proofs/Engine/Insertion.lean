import BannerMatch.Proofs.Analysis
import BannerMatch.Proofs.Engine.Transparency
import BannerMatch.Proofs.Rule.Identifiers

/-!
# Adding and removing rules

What a match finds follows the rules: a removal deletes the services of the rules that are removed,
and an addition inserts what the new rule finds on its own (`matchText_remove_and_add`). Since the
identifier of a rule that is added was not in use, a removal under it takes back the addition and
nothing else (`remove_rules_of_add`).

The cache does not matter here: what it holds is what the rules of now find (`Faithful`).
-/

namespace BannerMatch
namespace Engine

variable {e after : Engine} {now : Moment} {rule : Rule} {id : String}

/-! ### The rules -/

theorem remove_rules (e : Engine) (id : String) :
    (e.remove id).2.registry.rules = e.registry.rules.filter fun c => c.id != id := rfl

/-- An addition puts one rule behind the others, with an identifier that was not in use. -/
theorem exists_rules_of_add (h : e.add now rule = (.ok id, after)) :
    ∃ c : CompiledRule, after.registry.rules = e.registry.rules ++ [c] ∧ c.id = id ∧
      id ∉ e.registry.usedIds ∧ after.config = e.config ∧
      ∀ t, after.CanKeep t ↔ e.CanKeep t := by
  obtain ⟨-, hfree, c, rfl, rfl, rfl⟩ := add_eq_ok h
  exact ⟨_, rfl, rfl, Rule.id_compile_not_mem hfree, rfl, fun _ => Iff.rfl⟩

/-- Matches play no role for the identifier of a rule that is added. -/
theorem Stems.add_fst (h : Stems e after) (now : Moment) (rule : Rule) :
    (after.add now rule).1 = (e.add now rule).1 := by
  obtain ⟨entries, records, counters, rfl⟩ := h
  exact (Registry.add_fst _ now.stamp rule).trans (e.registry.add_fst now.stamp rule).symm

/-- **A removal takes back an addition.** -/
theorem remove_rules_of_add (h : e.add now rule = (.ok id, after)) :
    (after.remove id).1 = true ∧ (after.remove id).2.registry.rules = e.registry.rules := by
  obtain ⟨c, hrules, hid, hfree, -, -⟩ := exists_rules_of_add h
  constructor
  · have hused : id ∈ after.registry.usedIds := by
      rw [Registry.usedIds, hrules, List.map_append, List.mem_append]
      exact .inr (by simp [hid])
    rw [remove, Registry.remove_eq, if_pos ((Registry.has_iff _ _).mpr hused)]
  · have hothers : (e.registry.rules.filter fun c => c.id != id) = e.registry.rules :=
      List.filter_sublist.eq_of_length ((e.registry.length_filter_ne_eq_iff id).mpr hfree)
    rw [remove_rules, hrules, List.filter_append, hothers]
    simp [hid]

/-! ### What is found -/

variable {texts : List String} {text : String} {earlier later : ℕ}

theorem canKeep_remove_iff (e : Engine) (id : String) (now : ℕ) :
    (e.remove id).2.CanKeep now ↔ e.CanKeep now := by
  rw [remove, Registry.remove_eq]
  split
  · exact Iff.rfl
  · exact Iff.rfl

/-- A removal deletes the services that name the identifier. -/
theorem Faithful.matchText_remove (h : Faithful texts e) (hdiff : FingerprintsDiffer texts)
    (htext : text ∈ texts) (id : String) (hearlier : e.CanKeep earlier)
    (hlater : e.CanKeep later) :
    ∃ found, (e.matchText earlier text).1 = .ok found ∧
      ((e.remove id).2.matchText later text).1 = .ok (found.filter fun s => s.ruleId != id) := by
  have hafter := (invariant_faithful texts).remove e id h
  refine ⟨_, h.matchText_eq hdiff htext hearlier, ?_⟩
  rw [hafter.matchText_eq hdiff htext ((canKeep_remove_iff e id later).mpr hlater)]
  exact congrArg Except.ok (analyze_filter_ne _ _ _ _)

/-- An addition inserts what the new rule finds on its own. -/
theorem Faithful.matchText_add (h : Faithful texts e) (hdiff : FingerprintsDiffer texts)
    (htext : text ∈ texts) (hne : text ≠ "") (hadd : e.add now rule = (.ok id, after))
    {c : CompiledRule} (hrules : after.registry.rules = e.registry.rules ++ [c])
    (hearlier : e.CanKeep earlier) (hlater : e.CanKeep later) :
    ∃ found found', (e.matchText earlier text).1 = .ok found ∧
      (after.matchText later text).1 = .ok found' ∧
      InsertedInto (analyze [c] text e.config.synthesizeCpe).services found found' := by
  have hafter := (invariant_faithful texts).add e after now rule id trivial h hadd
  obtain ⟨-, -, -, -, hconfig, hkeep⟩ := exists_rules_of_add hadd
  refine ⟨_, _, h.matchText_eq hdiff htext hearlier,
    hafter.matchText_eq hdiff htext ((hkeep later).mpr hlater), ?_⟩
  rw [analysis, analysis, hrules, hconfig]
  exact insertedInto_analyze _ _ c hne

/-- A removal restores what was found before the addition. -/
theorem Faithful.matchText_remove_of_add (h : Faithful texts e)
    (hdiff : FingerprintsDiffer texts) (htext : text ∈ texts)
    (hadd : e.add now rule = (.ok id, after)) (hearlier : e.CanKeep earlier)
    (hlater : e.CanKeep later) :
    ∃ found, (e.matchText earlier text).1 = .ok found ∧
      ((after.remove id).2.matchText later text).1 = .ok found := by
  have hadded := (invariant_faithful texts).add e after now rule id trivial h hadd
  have hafter := (invariant_faithful texts).remove after id hadded
  obtain ⟨-, -, -, -, hconfig, hkeep⟩ := exists_rules_of_add hadd
  have hconfig' : (after.remove id).2.config = e.config := hconfig
  have hlater' := (canKeep_remove_iff after id later).mpr ((hkeep later).mpr hlater)
  refine ⟨_, h.matchText_eq hdiff htext hearlier, ?_⟩
  rw [hafter.matchText_eq hdiff htext hlater', analysis, analysis, (remove_rules_of_add hadd).2,
    hconfig']

/-- What an addition does to what is found in a text, and that a removal takes it back. -/
structure Insertion (e after : Engine) (id : String) (text : String) : Prop where
  /-- The new rule comes last, and what it finds on its own is inserted. -/
  inserted : ∃ c : CompiledRule, after.registry.rules = e.registry.rules ++ [c] ∧ c.id = id ∧
    ∀ earlier later, e.CanKeep earlier → e.CanKeep later → ∃ found found',
      (e.matchText earlier text).1 = .ok found ∧ (after.matchText later text).1 = .ok found' ∧
        InsertedInto (analyze [c] text e.config.synthesizeCpe).services found found'
  found_again : (after.remove id).1 = true
  rules_restored : (after.remove id).2.rules = e.rules
  matches_restored : ∀ earlier later, e.CanKeep earlier → e.CanKeep later → ∃ found,
    (e.matchText earlier text).1 = .ok found ∧
      ((after.remove id).2.matchText later text).1 = .ok found

/-- **Removals delete and additions insert**, whatever the history was, in every text whose
fingerprint differs from those of the other texts, if what is found in it can be kept. -/
theorem matchText_remove_and_add (config : Config) (ttl : ℕ) (history : List (Moment × Operation))
    (text : String) (hne : text ≠ "")
    (distinct : FingerprintsDiffer (text :: searchedTexts history)) :
    let e := ((start config ttl).run history).2
    (∀ id earlier later, e.CanKeep earlier → e.CanKeep later → ∃ found,
      (e.matchText earlier text).1 = .ok found ∧
        ((e.remove id).2.matchText later text).1 =
          .ok (found.filter fun s => s.ruleId != id)) ∧
    ∀ now rule id after, e.add now rule = (.ok id, after) → Insertion e after id text := by
  intro e
  have hfaithful : Faithful (text :: searchedTexts history) e :=
    (invariant_faithful _).run (Faithful.of_nil rfl) history (fun _ _ => trivial)
      fun _ ht => List.mem_cons_of_mem _ ht
  have htext : text ∈ text :: searchedTexts history := List.mem_cons_self
  refine ⟨fun id earlier later hearlier hlater =>
    hfaithful.matchText_remove distinct htext id hearlier hlater,
    fun now rule id after hadd => ?_⟩
  obtain ⟨c, hrules, hid, -⟩ := exists_rules_of_add hadd
  obtain ⟨hfound, hrestored⟩ := remove_rules_of_add hadd
  exact
    { inserted := ⟨c, hrules, hid, fun earlier later hearlier hlater =>
        hfaithful.matchText_add distinct htext hne hadd hrules hearlier hlater⟩
      found_again := hfound
      rules_restored := by rw [rules, Registry.ruleList, hrestored]; rfl
      matches_restored := fun earlier later hearlier hlater =>
        hfaithful.matchText_remove_of_add distinct htext hadd hearlier hlater }

/-- Three rules, the surest one last, and a banner that all of them find. -/
def threeRules : List (Moment × Operation) :=
  [(⟨0, "2024-01-01 00:00:00"⟩, .load
      [{ id := "low", service := "any", pattern := ".", confidence := 40 },
        { id := "same", service := "two", pattern := "2", confidence := 70 },
        { id := "high", service := "ssh", pattern := "SSH-", confidence := 90 }]),
    (⟨1, "2024-01-01 00:00:01"⟩, .matchBanner "SSH-2.0")]

/-- A rule of middle confidence is added that finds the banner too. -/
theorem matchText_add_threeRules :
    let e := ((start {} 100).run threeRules).2
    (FingerprintsDiffer ("SSH-2.0" :: searchedTexts threeRules) ∧ e.CanKeep 2 ∧ e.CanKeep 3) ∧
    (∃ found, (e.matchText 2 "SSH-2.0").1 = .ok found ∧
      ((e.remove "same").2.matchText 3 "SSH-2.0").1 =
        .ok (found.filter fun s => s.ruleId != "same")) ∧
    ∃ id after, e.add ⟨2, "2024-01-01 00:00:02"⟩
        { service := "dash", pattern := "-", confidence := 70 } = (.ok id, after) ∧
      id = "rule_1" ∧ Insertion e after id "SSH-2.0" := by
  intro e
  have distinct : FingerprintsDiffer ("SSH-2.0" :: searchedTexts threeRules) := by decide +kernel
  have hkeep : e.CanKeep 2 := (canKeep_run_iff {} 100 threeRules 2).mpr fun _ => by decide
  have hkeep' : e.CanKeep 3 := (canKeep_run_iff {} 100 threeRules 3).mpr fun _ => by decide
  obtain ⟨hremove, hadd⟩ :=
    matchText_remove_and_add {} 100 threeRules "SSH-2.0" (by decide) distinct
  have hid : (e.add ⟨2, "2024-01-01 00:00:02"⟩
      { service := "dash", pattern := "-", confidence := 70 }).1 = .ok "rule_1" := by
    have hstems := stems_matchText ((start {} 100).run (threeRules.take 1)).2 1 "SSH-2.0"
    refine (hstems.add_fst _ _).trans ?_
    decide +kernel
  refine ⟨⟨distinct, hkeep, hkeep'⟩, hremove "same" 2 3 hkeep hkeep', ?_⟩
  cases hadded : e.add ⟨2, "2024-01-01 00:00:02"⟩
      { service := "dash", pattern := "-", confidence := 70 } with
  | mk result after =>
    rw [hadded] at hid
    obtain rfl : result = .ok "rule_1" := hid
    exact ⟨"rule_1", after, rfl, rfl, hadd _ _ _ _ hadded⟩

end Engine
end BannerMatch
