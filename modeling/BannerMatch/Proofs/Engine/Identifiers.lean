import BannerMatch.Proofs.Engine.History
import BannerMatch.Proofs.Probe.Rules
import BannerMatch.Proofs.Probe.Source

/-!
# Identifiers in an engine

Three sources of rules could bring an identifier twice: a batch that is loaded, a rule that is
added, and the identifiers that are assigned. The last two never do; a batch does exactly if two of
its valid rules give themselves the same one. So the identifiers of an engine are distinct at every
moment of a history exactly if they are in each batch that is given to it
(`unambiguous_run_iff`).

`Change` lists what an operation can do to the rules, for proofs about every operation.
-/

namespace BannerMatch

/-- The rules that an operation brings from outside to replace those of the engine. -/
def Operation.givenBatch? : Operation → Option (List Rule)
  | .load rules => some rules
  | .importJson text => (RuleSet.ofJsonText text).toOption.map RuleSet.rules
  | .importMessagePack bytes => (RuleSet.ofMessagePack? bytes).map RuleSet.rules
  | _ => none

/-- The rules that replace those of the engine in an operation. -/
def Operation.batch? (options : Probe.Options) : Operation → Option (List Rule)
  | .loadBuiltin => some builtinRules
  | .loadProbes source => (Probe.importSource options source).toOption.map Probe.Report.rules
  | op => op.givenBatch?

theorem distinctIds_builtinRules : DistinctIds builtinRules := by decide +kernel

/-- Built-in rules and probe files never repeat an identifier. -/
theorem Operation.distinctIds_of_batch? {options : Probe.Options} {op : Operation}
    (h : ∀ rules ∈ op.givenBatch?, DistinctIds rules) :
    ∀ rules ∈ op.batch? options, DistinctIds rules := by
  intro rules hrules
  cases op with
  | loadBuiltin => cases hrules; exact distinctIds_builtinRules
  | loadProbes source =>
    rw [batch?] at hrules
    cases hsource : Probe.importSource options source with
    | error f => rw [hsource] at hrules; cases hrules
    | ok report =>
      rw [hsource] at hrules
      cases hrules
      rw [(Probe.eq_importFrom_of_importSource options hsource).2]
      exact Probe.distinctIds_importFrom _ _ _
  | _ => exact h rules hrules

namespace Engine

/-- What an operation can do to the rules of an engine: it replaces them by a batch, adds one,
removes those with an identifier, or leaves them. -/
inductive Change (e : Engine) (now : Moment) : Option (List Rule) → Engine → Prop
  | load (rules : List Rule) : Change e now (some rules) (e.load now rules).2
  | add {rule : Rule} {id : String} {after : Engine} (h : e.add now rule = (.ok id, after)) :
      Change e now none after
  | remove (id : String) : Change e now none (e.remove id).2
  | keep {after : Engine} (h : after.registry.rules = e.registry.rules) : Change e now none after

theorem change_add (e : Engine) (now : Moment) (rule : Rule) :
    Change e now none (e.add now rule).2 := by
  cases hadd : e.add now rule with
  | mk result after =>
    cases result with
    | ok id => exact .add hadd
    | error f => exact .keep (congrArg (·.registry.rules) (add_eq_error hadd))

theorem change_settle {e : Engine} {now : Moment} {α : Type} (answer : α → Answer)
    {result : Except Failure (α × Engine)}
    (h : ∀ a after, result = .ok (a, after) → Change e now none after) :
    Change e now none (e.settle result answer).2 := by
  cases result with
  | error f => exact .keep rfl
  | ok r => exact h r.1 r.2 rfl

/-- **Every operation makes one of these changes.** -/
theorem change_perform (e : Engine) (now : Moment) (op : Operation) :
    Change e now (op.batch? e.config.probes) (e.perform now op).2 := by
  cases op with
  | load rules => exact .load rules
  | loadBuiltin => exact .load builtinRules
  | loadProbes source =>
    rw [perform, loadProbes, Operation.batch?]
    cases Probe.importSource e.config.probes source with
    | error f => exact .keep rfl
    | ok report => exact .load report.rules
  | importJson text =>
    rw [perform, importJson]
    show Change e now ((RuleSet.ofJsonText text).toOption.map RuleSet.rules) _
    cases RuleSet.ofJsonText text with
    | error f => exact .keep rfl
    | ok set => exact .load set.rules
  | importMessagePack bytes =>
    rw [perform, importMessagePack]
    show Change e now ((RuleSet.ofMessagePack? bytes).map RuleSet.rules) _
    cases RuleSet.ofMessagePack? bytes with
    | none => exact .keep rfl
    | some set => exact .load set.rules
  | add rule => exact change_add e now rule
  | addSimple rule => exact change_add e now rule.toRule
  | remove id => exact .remove id
  | matchBanner banner => exact .keep (stems_matchText e _ _).rules
  | matchResponse banner response => exact .keep (stems_matchText e _ _).rules
  | bestMatch banner => exact .keep (stems_matchText e _ _).rules
  | matchBatch banners schedule => exact .keep (stems_matchBatch e _ banners schedule).rules
  | clearCache => exact .keep rfl
  | sweep wakeups =>
    refine change_settle _ fun _ after h => ?_
    cases wakeups with
    | none => cases h
    | some instants => cases h; exact .keep rfl

/-! ### Distinct identifiers -/

theorem usedIds_load (e : Engine) (now : Moment) (rules : List Rule) :
    (e.load now rules).2.registry.usedIds.Nodup ↔ DistinctIds rules :=
  nodup_ids_compileBatch_iff rules

/-- **A change keeps the identifiers distinct** if those of the new batch are. -/
theorem Change.nodup_usedIds {e after : Engine} {now : Moment} {batch : Option (List Rule)}
    (h : Change e now batch after) (hbatch : ∀ rules ∈ batch, DistinctIds rules)
    (he : e.registry.usedIds.Nodup) : after.registry.usedIds.Nodup := by
  cases h with
  | load rules => exact (usedIds_load e now rules).mpr (hbatch rules rfl)
  | @add rule id _ hadd =>
    obtain ⟨-, hfree, c, hc, -, rfl⟩ := add_eq_ok hadd
    have hnew : c.1.id ∉ e.registry.usedIds := hc ▸ Rule.id_compile_not_mem hfree
    show (List.map CompiledRule.id (e.registry.rules ++ [c.1])).Nodup
    rw [List.map_append, List.nodup_append]
    refine ⟨he, by simp, fun id hid other hother => ?_⟩
    rw [List.map_singleton, List.mem_singleton] at hother
    exact fun heq => hnew (hother ▸ heq ▸ hid)
  | remove id =>
    rw [Engine.remove, Registry.remove_eq]
    split
    · exact he.sublist (List.filter_sublist.map _)
    · exact he
  | keep hrules =>
    rw [Registry.usedIds, hrules]
    exact he

theorem run_append (e : Engine) (past rest : List (Moment × Operation)) :
    (e.run (past ++ rest)).2 = ((e.run past).2.run rest).2 := by
  induction past generalizing e with
  | nil => rfl
  | cons step past ih => exact ih _

theorem nodup_usedIds_run {e : Engine} {history : List (Moment × Operation)}
    (hgiven : ∀ step ∈ history, ∀ rules ∈ step.2.givenBatch?, DistinctIds rules)
    (he : e.registry.usedIds.Nodup) : (e.run history).2.registry.usedIds.Nodup := by
  induction history generalizing e with
  | nil => exact he
  | cons step rest ih =>
    obtain ⟨hfirst, hrest⟩ := List.forall_mem_cons.mp hgiven
    exact ih hrest ((change_perform e step.1 step.2).nodup_usedIds
      (Operation.distinctIds_of_batch? hfirst) he)

/-- A batch is loaded. -/
theorem perform_of_batch? (e : Engine) (now : Moment) {op : Operation} {rules : List Rule}
    (h : op.batch? e.config.probes = some rules) :
    (e.perform now op).2 = (e.load now rules).2 := by
  have hchange := change_perform e now op
  rw [h] at hchange
  generalize (e.perform now op).2 = after at hchange
  cases hchange
  rfl

theorem perform_of_givenBatch? (e : Engine) (now : Moment) {op : Operation} {rules : List Rule}
    (h : op.givenBatch? = some rules) : (e.perform now op).2 = (e.load now rules).2 := by
  refine e.perform_of_batch? now ?_
  cases op with
  | loadBuiltin | loadProbes source => cases h
  | _ => exact h

end Engine

/-- The identifiers of a registry tell its rules apart: a rule is found under its identifier, and a
removal takes at most one rule. -/
structure Registry.Unambiguous (r : Registry) : Prop where
  distinct : r.usedIds.Nodup
  found : ∀ c ∈ r.rules, r.rule? c.id = some c.rule
  removed : ∀ id, r.size ≤ (r.remove id).2.size + 1

theorem find?_eq_some_of_nodup {rules : List CompiledRule}
    (h : (rules.map CompiledRule.id).Nodup) {c : CompiledRule} (hc : c ∈ rules) :
    rules.find? (fun d => d.id == c.id) = some c := by
  induction rules with
  | nil => cases hc
  | cons d rest ih =>
    rw [List.map_cons, List.nodup_cons] at h
    rcases List.mem_cons.mp hc with rfl | hc
    · rw [List.find?_cons_of_pos (by simp)]
    · -- the first rule has another identifier, as that of `c` comes later
      have hne : d.id ≠ c.id := fun heq => h.1 (heq ▸ List.mem_map_of_mem hc)
      rw [List.find?_cons_of_neg (by simpa using hne)]
      exact ih h.2 hc

theorem length_le_length_filter_ne {rules : List CompiledRule}
    (h : (rules.map CompiledRule.id).Nodup) (id : String) :
    rules.length ≤ (rules.filter fun c => c.id != id).length + 1 := by
  have hsame : (rules.filter fun c => c.id == id).length ≤ 1 := by
    rw [← List.countP_eq_length_filter]
    have hcount := List.nodup_iff_count_le_one.mp h id
    rwa [List.count, List.countP_map] at hcount
  have hsplit := List.length_eq_length_filter_add (l := rules) fun c => c.id == id
  simp only [bne]
  omega

/-- All of it follows from the identifiers being distinct. -/
theorem Registry.unambiguous_of_nodup {r : Registry} (h : r.usedIds.Nodup) : r.Unambiguous where
  distinct := h
  found c hc := by
    rw [Registry.rule?, find?_eq_some_of_nodup h hc]
    rfl
  removed id := by
    rw [Registry.remove_eq]
    split
    · exact length_le_length_filter_ne h id
    · exact Nat.le_succ _

namespace Engine

/-- **At every moment of a history the identifiers tell the rules apart, exactly if no batch that is
given in it has two valid rules with the same identifier.** -/
theorem unambiguous_run_iff (config : Config) (ttl : ℕ) (history : List (Moment × Operation)) :
    (∀ past, past <+: history → ((start config ttl).run past).2.registry.Unambiguous) ↔
      ∀ step ∈ history, ∀ rules ∈ step.2.givenBatch?, DistinctIds rules := by
  constructor
  · intro h step hstep rules hrules
    obtain ⟨past, rest, rfl⟩ := List.append_of_mem hstep
    have hload := (h (past ++ [step]) ⟨rest, by simp⟩).distinct
    rw [run_append] at hload
    have hperform := perform_of_givenBatch? ((start config ttl).run past).2 step.1 hrules
    rw [← usedIds_load ((start config ttl).run past).2 step.1, ← hperform]
    exact hload
  · intro h past hpast
    exact Registry.unambiguous_of_nodup
      (nodup_usedIds_run (fun step hstep => h step (hpast.subset hstep)) List.nodup_nil)

/-- Two valid rules of one batch with the same identifier. -/
def repeatedId : List Rule :=
  [{ id := "a", service := "ssh", pattern := "SSH-" },
    { id := "a", service := "ftp", pattern := "220" }]

/-- Both are kept: the second one cannot be found, and one removal takes both. -/
theorem not_unambiguous_repeatedId :
    let r := ((start {} 100).run [(⟨0, "2024-01-01 00:00:00"⟩, .load repeatedId)]).2.registry
    ¬ r.usedIds.Nodup ∧ r.usedIds = ["a", "a"] ∧
      (r.rule? "a").map Rule.service = some "ssh" ∧ r.size = 2 ∧
      (r.remove "a").2.size = 0 := by
  decide +kernel

end Engine
end BannerMatch
