import BannerMatch.Proofs.Engine.Reload
import BannerMatch.Proofs.Engine.Transparency
import BannerMatch.Proofs.Json.Records
import BannerMatch.Proofs.MessagePack.Records

/-!
# Moving rules from one engine to another

What an engine exports, in either form of JSON or in MessagePack, makes an engine with the same
configuration its equal: `import_export_run`. Both codecs give the exported rule set back, its rules
are settled and so are taken over as they are, and since the import empties the cache, the two
engines find the same in every banner.
-/

namespace BannerMatch
namespace Engine

/-- The engine `after` has the rules of `source` and finds what `source` finds. -/
structure Reproduces (texts : List String) (source after : Engine) : Prop where
  rules : after.rules = source.rules
  alike : MatchAlike texts source after

/-- Engines with the same rules and configuration whose caches are faithful. -/
theorem reproduces_of_faithful {texts : List String} {source after : Engine}
    (hrules : after.registry.rules = source.registry.rules) (hconfig : after.config = source.config)
    (hsource : ∀ banners, Faithful (banners ++ texts) source)
    (hafter : ∀ banners, Faithful (banners ++ texts) after) :
    Reproduces texts source after where
  rules := by rw [Engine.rules, Registry.ruleList, hrules]; rfl
  alike := matchAlike_of_faithful (fun text => by rw [analysis, analysis, hrules, hconfig])
    (fun banners _ => hsource banners) fun banners _ => hafter banners

/-- What an engine exports fits into MessagePack if its rules do. -/
theorem fits_exportRules {e : Engine} (hcount : e.rules.length < 2 ^ 32)
    (hrules : ∀ r ∈ e.rules, r.Fits) : (e.exportRules exportDescription).Fits where
  rules := hrules
  fields := by
    have hversion : MessagePack.FitsText programVersion := by decide
    have hdescription : MessagePack.FitsText exportDescription := by decide
    have hauthor : MessagePack.FitsText programName := by decide
    simp only [RuleSet.layout, List.forall_mem_cons]
    exact ⟨hversion, hdescription, hauthor, hcount, by simp⟩

/-- **An export makes an engine with the same configuration equal to its source**, whatever the two
have done before. The dates that the clock gives are never empty; MessagePack has room for texts and
lists shorter than `2 ^ 32`. -/
theorem import_export_run (config : Config) (hconfidence : config.defaultConfidence ≤ 100)
    (ttl ttl' : ℕ) (history history' : List (Moment × Operation))
    (hdates : ∀ step ∈ history, step.1.stamp ≠ "") (now : Moment) :
    let source := ((start config ttl).run history).2
    let target := ((start config ttl').run history').2
    (∀ pretty, ∃ after,
      target.importJson now (source.exportJson pretty) = .ok (takeoverReport source, after) ∧
        (∀ t, after.CanKeep t ↔ target.CanKeep t) ∧
        Reproduces (searchedTexts history) source after) ∧
    (source.rules.length < 2 ^ 32 → (∀ r ∈ source.rules, r.Fits) → ∃ after,
      target.importMessagePack now source.exportMessagePack =
          .ok (takeoverReport source, after) ∧
        (∀ t, after.CanKeep t ↔ target.CanKeep t) ∧
        Reproduces (searchedTexts history) source after) := by
  intro source target
  have hsettled : SettledBy config source :=
    (invariant_settled hconfidence).run (settledBy_start config ttl) history hdates
      fun _ _ => trivial
  have htarget : target.registry.defaultConfidence = config.defaultConfidence :=
    (run_settings (start config ttl') history').2
  have hload := load_settled hsettled htarget now
  have hreproduces : Reproduces (searchedTexts history) source
      (target.load now source.rules).2 := by
    rw [hload.2]
    -- the cache of the target is empty after the load, and that of the source is faithful
    refine reproduces_of_faithful rfl ?_ (fun banners => ?_) fun _ => Faithful.of_nil rfl
    · have hsource : source.config = config := (run_settings _ history).1
      have htarget : target.config = config := (run_settings _ history').1
      exact htarget.trans hsource.symm
    · exact (invariant_faithful _).run (Faithful.of_nil rfl) history (fun _ _ => trivial)
        fun text ht => List.mem_append_right _ ht
  have hkeep : ∀ t, (target.load now source.rules).2.CanKeep t ↔ target.CanKeep t :=
    fun _ => Iff.rfl
  have hexport : ∀ description, (source.exportRules description).rules = source.rules :=
    fun _ => rfl
  constructor
  · intro pretty
    refine ⟨_, ?_, hkeep, hreproduces⟩
    rw [importJson, exportJson, RuleSet.ofJsonText_jsonText]
    simp only [hexport]
    rw [← hload.1]
  · intro hcount hrules
    refine ⟨_, ?_, hkeep, hreproduces⟩
    rw [importMessagePack, exportMessagePack,
      RuleSet.ofMessagePack?_messagePack (fits_exportRules hcount hrules)]
    simp only [hexport]
    rw [← hload.1]

/-- Rules with an identifier given twice, without one, with a pattern that is no pattern and with
characters that JSON writes as escapes; then a match, and one more rule. -/
def mixedHistory : List (Moment × Operation) :=
  [(⟨0, "2024-01-01 00:00:00"⟩, .load
      [{ id := "ssh", service := "ssh", pattern := "SSH-" },
        { id := "ssh", service := "\"s\\\n\x01é𝄞", pattern := "(", confidence := 7 },
        { service := "ftp", pattern := "220", createTime := "once" },
        { id := "gone", service := " ", pattern := "x" }]),
    (⟨1, "2024-01-01 00:00:01"⟩, .matchBanner "SSH-2.0"),
    (⟨2, "2024-01-01 00:00:02"⟩, .addSimple { service := "any", pattern := "ok" })]

/-- An engine that had other rules becomes equal to the one with the mixed history. -/
theorem import_export_mixedHistory :
    let source := ((start {} 100).run mixedHistory).2
    let target := ((start {} 7).run [(⟨5, ""⟩, .loadBuiltin)]).2
    source.rules.length = 4 ∧ (takeoverReport source).inert = 1 ∧
    (∃ after, target.importJson ⟨9, "2024-01-02"⟩ (source.exportJson true) =
        .ok (takeoverReport source, after) ∧
      ∃ found, (source.matchBanner 3 "220 SSH-").1 = .ok found ∧
        (after.matchBanner 10 "220 SSH-").1 = .ok found) ∧
    ∃ after, target.importMessagePack ⟨9, "2024-01-02"⟩ source.exportMessagePack =
        .ok (takeoverReport source, after) ∧ after.rules = source.rules := by
  have hdates : ∀ step ∈ mixedHistory, step.1.stamp ≠ "" := by decide
  have hdiff : FingerprintsDiffer ("220 SSH-" :: searchedTexts mixedHistory) := by decide +kernel
  have hcount : ((start {} 100).run mixedHistory).2.rules.length < 2 ^ 32 := by decide +kernel
  have hfits : ∀ r ∈ ((start {} 100).run mixedHistory).2.rules, r.Fits := by decide +kernel
  have h := import_export_run {} (by decide) 100 7 mixedHistory [(⟨5, ""⟩, .loadBuiltin)] hdates
    ⟨9, "2024-01-02"⟩
  have hsource := (canKeep_run_iff {} 100 mixedHistory 3).mpr fun _ => by decide
  have htarget := (canKeep_run_iff {} 7 [(⟨5, ""⟩, .loadBuiltin)] 10).mpr fun _ => by decide
  obtain ⟨afterJson, hjson, hkeep, hsame⟩ := h.1 true
  obtain ⟨afterBytes, hbytes, -, hsame'⟩ := h.2 hcount hfits
  exact ⟨by decide +kernel, by decide +kernel,
    ⟨afterJson, hjson, hsame.alike.banner _ hdiff 3 10 hsource ((hkeep 10).mpr htarget)⟩,
    ⟨afterBytes, hbytes, hsame'.rules⟩⟩

end Engine
end BannerMatch
