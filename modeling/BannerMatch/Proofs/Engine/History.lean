import BannerMatch.Proofs.Cache.Sweeper
import BannerMatch.Proofs.Engine.Batches
import BannerMatch.Proofs.Registry.Changes
import BannerMatch.Proofs.Rule.Settled

/-!
# Histories of an engine

Every operation comes down to a few elementary changes: rules are loaded, a rule is added or
removed, a match takes a step, the cache is emptied or swept. `Engine.Invariant D T P` says that
these keep the property `P`, where moments of which `D` holds and texts of which `T` holds occur.
Then every operation keeps it (`Invariant.perform`), and so does every history (`Invariant.run`),
also if an operation breaks down on the way. Rules come into an engine only by being compiled, so
what compiling makes of every valid rule holds of all rules of an engine at any time
(`invariant_rules`).

`Engine.start` is an engine without rules, as `Engine.new`, whose cached results live for any number
of nanoseconds.
-/

namespace BannerMatch

/-- The texts that an operation looks for. -/
def Operation.texts : Operation → List String
  | .matchBanner banner => [banner]
  | .matchResponse banner response => [Engine.searchedText banner response]
  | .bestMatch banner => [banner]
  | .matchBatch banners _ => banners
  | _ => []

/-- The instants at which an operation that is asked for at an instant goes on. -/
def Operation.instants (now : ℕ) : Operation → List ℕ
  | .matchBatch _ schedule => now :: schedule.map Turn.instant
  | _ => [now]

/-- The texts that a history looks for. -/
def searchedTexts (history : List (Moment × Operation)) : List String :=
  history.flatMap fun step => step.2.texts

/-- Whether an operation matches banners side by side. -/
def Operation.isBatch : Operation → Bool
  | .matchBatch _ _ => true
  | _ => false

/-- An operation stays within the limits: there can be the permits for a batch, and what is cached
expires within the range of the clock. -/
structure Operation.WithinLimits (op : Operation) (config : Config) (ttl now : ℕ) : Prop where
  permits : op.isBatch = true → config.permits ≤ maxPermits
  clock : config.cacheEnabled = true → ∀ t ∈ op.instants now, t + ttl < instantLimit

namespace Engine

/-- An engine without rules whose cached results live for `ttl` nanoseconds. -/
def start (config : Config) (ttl : ℕ) : Engine :=
  (Engine.new config).withCache { ttl := ttl, capacity := config.cacheSize }

/-- A whole number of milliseconds, as configurations have it. -/
theorem start_eq_new (config : Config) :
    start config (config.cacheTtl * nanoseconds) = Engine.new config := rfl

/-- One rule is loaded. -/
def loadHistory : List (Moment × Operation) :=
  [(⟨0, "2024-01-01 00:00:00"⟩, .load [{ id := "ssh", service := "ssh", pattern := "SSH-" }])]

/-- When a rule is added, and what the engine is then. -/
theorem add_eq_ok {e after : Engine} {now : Moment} {rule : Rule} {id : String}
    (h : e.add now rule = (.ok id, after)) :
    rule.check = .ok () ∧ rule.id ∉ e.registry.usedIds ∧
      ∃ c : CompiledRule × IdSource,
        c = rule.compile (e.registry.defaults now.stamp) e.registry.usedIds e.registry.ids ∧
        id = c.1.id ∧
        after = { e with registry := { e.registry with
          rules := e.registry.rules ++ [c.1]
          cache := e.registry.cache.invalidate
          ids := c.2 } } := by
  rw [Engine.add] at h
  rcases e.registry.add_cases now.stamp rule with
    ⟨f, -, hadd⟩ | ⟨-, -, hadd⟩ | ⟨hcheck, hfree, c, hc, hadd⟩
  · rw [hadd] at h
    cases h
  · rw [hadd] at h
    cases h
  · rw [hadd] at h
    cases h
    exact ⟨hcheck, hfree, c, hc, rfl, rfl⟩

/-- A rule that is not added leaves the engine as it was. -/
theorem add_eq_error {e after : Engine} {now : Moment} {rule : Rule} {f : Failure}
    (h : e.add now rule = (.error f, after)) : after = e := by
  rw [Engine.add] at h
  rcases e.registry.add_cases now.stamp rule with
    ⟨f, -, hadd⟩ | ⟨-, -, hadd⟩ | ⟨-, -, c, -, hadd⟩
  · rw [hadd] at h
    cases h
    rfl
  · rw [hadd] at h
    cases h
    rfl
  · rw [hadd] at h
    cases h

/-- A property that every elementary change keeps. -/
structure Invariant (D : Moment → Prop) (T : String → Prop) (P : Engine → Prop) : Prop where
  load : ∀ (e : Engine) (now : Moment) (rules : List Rule), D now → P e → P (e.load now rules).2
  add : ∀ (e after : Engine) (now : Moment) (rule : Rule) (id : String), D now → P e →
    e.add now rule = (.ok id, after) → P after
  remove : ∀ (e : Engine) (id : String), P e → P (e.remove id).2
  search : Kept T P
  clear : ∀ e : Engine, P e → P e.clearCache
  sweep : ∀ (e : Engine) (now : ℕ), P e → P (e.withCache (e.registry.cache.sweep now).2)

namespace Invariant

variable {D : Moment → Prop} {T : String → Prop} {P : Engine → Prop}

/-- A rule that is not added leaves the engine as it was. -/
theorem add_snd (h : Invariant D T P) {e : Engine} (he : P e) {now : Moment} (hnow : D now)
    (rule : Rule) : P (e.add now rule).2 := by
  cases hadd : e.add now rule with
  | mk result after =>
    cases result with
    | ok id => exact h.add e after now rule id hnow he hadd
    | error f =>
      obtain rfl := add_eq_error hadd
      exact he

theorem settle {α : Type} {e : Engine} (he : P e) {result : Except Failure (α × Engine)}
    (answer : α → Answer) (hok : ∀ a after, result = .ok (a, after) → P after) :
    P (e.settle result answer).2 := by
  cases result with
  | error f => exact he
  | ok r => exact hok r.1 r.2 rfl

/-- **Every operation keeps an invariant.** -/
theorem perform (h : Invariant D T P) {e : Engine} (he : P e) {now : Moment} (hnow : D now)
    {op : Operation} (htexts : ∀ text ∈ op.texts, T text) : P (e.perform now op).2 := by
  cases op with
  | load rules => exact h.load e now rules hnow he
  | loadBuiltin => exact h.load e now builtinRules hnow he
  | loadProbes source =>
    refine settle he _ fun a after hok => ?_
    rw [loadProbes] at hok
    cases hread : Probe.importSource e.config.probes source with
    | error f => rw [hread] at hok; cases hok
    | ok report => rw [hread] at hok; cases hok; exact h.load e now report.rules hnow he
  | add rule => exact h.add_snd he hnow rule
  | addSimple rule => exact h.add_snd he hnow rule.toRule
  | remove id => exact h.remove e id he
  | importJson text =>
    refine settle he _ fun a after hok => ?_
    rw [importJson] at hok
    split at hok
    · cases hok
    · rename_i set _
      cases hok
      exact h.load e now set.rules hnow he
  | importMessagePack bytes =>
    refine settle he _ fun a after hok => ?_
    rw [importMessagePack] at hok
    split at hok
    · cases hok
    · rename_i set _
      cases hok
      exact h.load e now set.rules hnow he
  | matchBanner banner =>
    exact h.search.matchText (htexts _ (by simp [Operation.texts])) he now.instant
  | matchResponse banner response =>
    exact h.search.matchText (htexts _ (by simp [Operation.texts])) he now.instant
  | bestMatch banner =>
    exact h.search.matchText (htexts _ (by simp [Operation.texts])) he now.instant
  | matchBatch banners schedule => exact h.search.matchBatch he htexts now.instant schedule
  | clearCache => exact h.clear e he
  | sweep wakeups =>
    refine settle he _ fun a after hok => ?_
    cases wakeups with
    | none => cases hok
    | some instants =>
      cases hok
      exact Cache.sweepWhile_keeps (P := fun c => P (e.withCache c))
        (fun c now hc => h.sweep (e.withCache c) now hc) he _ _

/-- **Every history keeps an invariant.** -/
theorem run (h : Invariant D T P) {e : Engine} (he : P e) (history : List (Moment × Operation))
    (hdates : ∀ step ∈ history, D step.1) (htexts : ∀ text ∈ searchedTexts history, T text) :
    P (e.run history).2 := by
  induction history generalizing e with
  | nil => exact he
  | cons step rest ih =>
    rw [searchedTexts, List.flatMap_cons] at htexts
    have hfirst := h.perform he (hdates step List.mem_cons_self)
      fun text ht => htexts text (List.mem_append_left _ ht)
    exact ih hfirst (fun s hs => hdates s (List.mem_cons_of_mem _ hs))
      fun text ht => htexts text (List.mem_append_right _ ht)

end Invariant

/-! ### What stays the same -/

/-- The configuration never changes, and neither does the default confidence of the registry. -/
theorem run_settings (e : Engine) (history : List (Moment × Operation)) :
    (e.run history).2.config = e.config ∧
      (e.run history).2.registry.defaultConfidence = e.registry.defaultConfidence := by
  have h : Invariant (fun _ => True) (fun _ => True) fun e' =>
      e'.config = e.config ∧ e'.registry.defaultConfidence = e.registry.defaultConfidence :=
    { load := fun e' now rules _ he => he
      add := fun e' after now rule id _ he hok => by
        obtain ⟨-, -, c, -, -, rfl⟩ := add_eq_ok hok
        exact he
      remove := fun e' id he => by
        rw [Engine.remove, Registry.remove_eq]
        split
        · exact he
        · exact he
      search := fun e' text c f _ _ he => he
      clear := fun e' he => he
      sweep := fun e' now he => he }
  exact h.run ⟨rfl, rfl⟩ history (fun _ _ => trivial) fun _ _ => trivial

/-- Neither does the time that cached results live. -/
theorem run_ttl (e : Engine) (history : List (Moment × Operation)) :
    (e.run history).2.registry.cache.ttl = e.registry.cache.ttl := by
  have h : Invariant (fun _ => True) (fun _ => True) fun e' =>
      e'.registry.cache.ttl = e.registry.cache.ttl :=
    { load := fun e' now rules _ he => he
      add := fun e' after now rule id _ he hok => by
        obtain ⟨-, -, c, -, -, rfl⟩ := add_eq_ok hok
        exact he
      remove := fun e' id he => by
        rw [Engine.remove, Registry.remove_eq]
        split
        · exact he
        · exact he
      search := fun e' text c f htext hc he =>
        (kept_stems (fun _ => True) e' e' text c f htext hc (.refl e')).ttl.trans he
      clear := fun e' he => he
      sweep := fun e' now he => he }
  exact h.run rfl history (fun _ _ => trivial) fun _ _ => trivial

theorem canKeep_run_iff (config : Config) (ttl : ℕ) (history : List (Moment × Operation))
    (now : ℕ) :
    ((start config ttl).run history).2.CanKeep now ↔
      (config.cacheEnabled = true → now + ttl < instantLimit) := by
  rw [CanKeep, (run_settings _ history).1, run_ttl]
  rfl

/-! ### What holds of all rules -/

/-- **What compiling makes of every valid rule** holds of all rules at any time; `confidence` is the
default confidence. -/
theorem invariant_rules {D : Moment → Prop} {P : CompiledRule → Prop} {confidence : UInt8}
    (hcompile : ∀ (r : Rule) (now : Moment) (taken : List String) (ids : IdSource),
      r.checkFields = .ok () → D now → P (r.compile ⟨confidence, now.stamp⟩ taken ids).1) :
    Invariant D (fun _ => True) fun e =>
      e.registry.defaultConfidence = confidence ∧ ∀ c ∈ e.registry.rules, P c where
  load e now rules hnow he := by
    have hdefaults : e.registry.defaults now.stamp = ⟨confidence, now.stamp⟩ :=
      congrArg (RuleDefaults.mk · now.stamp) he.1
    refine ⟨he.1, ?_⟩
    rw [Engine.load, Registry.load, hdefaults]
    exact forall_mem_compileFrom (fun r taken ids hr => hcompile r now taken ids hr hnow) rules
  add e after now rule id hnow he hok := by
    obtain ⟨hcheck, -, c, rfl, -, rfl⟩ := add_eq_ok hok
    have hrule := hcompile rule now e.registry.usedIds e.registry.ids
      (Rule.checkFields_of_check hcheck) hnow
    rw [← he.1] at hrule
    exact ⟨he.1, List.forall_mem_append.mpr ⟨he.2, List.forall_mem_singleton.mpr hrule⟩⟩
  remove e id he := by
    rw [Engine.remove, Registry.remove_eq]
    split
    · exact ⟨he.1, fun c hc => he.2 c (List.mem_filter.mp hc).1⟩
    · exact he
  search e text c f _ _ he := he
  clear e he := he
  sweep e now he := he

end Engine
end BannerMatch
