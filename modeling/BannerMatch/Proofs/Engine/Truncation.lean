import BannerMatch.Proofs.Engine.Refusals
import BannerMatch.Proofs.Json.Truncation
import BannerMatch.Proofs.MessagePack.Prefixes

/-!
# Exports that are cut off

Every field of a rule and of a rule set has a default, so a reader that took the end of its input
for the end of a rule set would load a part of it. Neither reader does (`perform_truncated`): what
is missing at the end of an export makes the import fail, and the engine stays as it was.
-/

namespace BannerMatch.Engine

/-- **Only the whole of an export is loaded.** A text that is cut off is refused as too short,
wherever that is and in both forms; bytes that are cut off are refused if the whole can be read
back. The engine is then the same as before. -/
theorem perform_truncated (e : Engine) (now : Moment) (s : RuleSet) :
    (∀ pretty, RuleSet.ofJsonText (s.jsonText pretty) = .ok s ∧
      ∀ front, front <+: s.jsonText pretty → front ≠ s.jsonText pretty →
        RuleSet.ofJsonText front = .error .truncated ∧
          e.perform now (.importJson front) = (.failed (.json .truncated), e)) ∧
    (s.Fits → RuleSet.ofMessagePack? s.messagePack = some s ∧
      ∀ front, front <+: s.messagePack → front ≠ s.messagePack →
        RuleSet.ofMessagePack? front = none ∧
          e.perform now (.importMessagePack front) = (.failed .messagePack, e)) := by
  constructor
  · intro pretty
    refine ⟨s.ofJsonText_jsonText pretty, fun front hfront hne => ?_⟩
    have htext := RuleSet.ofJsonText_of_isPrefix hfront hne
    exact ⟨htext, perform_of_refused (.badJson htext) now⟩
  · intro hs
    refine ⟨RuleSet.ofMessagePack?_messagePack hs, fun front hfront hne => ?_⟩
    have hbytes := RuleSet.ofMessagePack?_eq_none_of_isPrefix hs hfront hne
    exact ⟨hbytes, perform_of_refused (.badMessagePack hbytes) now⟩

/-- An engine with two rules does not load the odd rule set. Its text is cut off within an escape,
within the last confidence and before the last brace, its bytes within a field name, within a
character and before the last byte. -/
theorem perform_truncated_oddRuleSet :
    let e := ((start {} 100).run busyHistory).2
    let now : Moment := ⟨2, "2024-01-01 00:00:02"⟩
    e.registry.rules.length = 2 ∧ oddRuleSet.Fits ∧
      (∀ n ∈ [31, 412, 461], (oddRuleSet.jsonText false).take n ≠ oddRuleSet.jsonText false ∧
        e.perform now (.importJson ((oddRuleSet.jsonText false).take n)) =
          (.failed (.json .truncated), e)) ∧
      ∀ n ∈ [5, 43, 321], oddRuleSet.messagePack.take n ≠ oddRuleSet.messagePack ∧
        e.perform now (.importMessagePack (oddRuleSet.messagePack.take n)) =
          (.failed .messagePack, e) := by
  intro e now
  have hfits : oddRuleSet.Fits := ⟨by decide +kernel, by decide +kernel⟩
  have htext : ∀ n ∈ [31, 412, 461],
      (oddRuleSet.jsonText false).take n ≠ oddRuleSet.jsonText false := by decide +kernel
  have hbytes : ∀ n ∈ [5, 43, 321],
      oddRuleSet.messagePack.take n ≠ oddRuleSet.messagePack := by decide +kernel
  have h := perform_truncated e now oddRuleSet
  refine ⟨by decide +kernel, hfits, fun n hn => ?_, fun n hn => ?_⟩
  · exact ⟨htext n hn, ((h.1 false).2 _ (List.take_prefix n _) (htext n hn)).2⟩
  · exact ⟨hbytes n hn, ((h.2 hfits).2 _ (List.take_prefix n _) (hbytes n hn)).2⟩

end BannerMatch.Engine
