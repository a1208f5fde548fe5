import BannerMatch.Proofs.Engine.Identifiers
import BannerMatch.Proofs.Engine.Refusals
import BannerMatch.Proofs.Rule.Assigned
import BannerMatch.Proofs.Rule.Settled

/-!
# Identifiers that an engine assigns

`newRules` are the rules that an operation puts into the registry, as they came and as they are
kept, and `assigned` are the identifiers of those that came without one. Whatever the engine and the
operation are, they belong to one rule each and to none that the operation brings (`FreshIds`).

The source of identifiers goes on from one operation to the next (`draws_perform`), so over a whole
history no identifier is assigned twice, also not after its rule has been removed
(`assigned_fresh_along`).
-/

namespace BannerMatch

/-- The rules that an operation brings, valid or not. -/
def Operation.broughtRules (options : Probe.Options) (op : Operation) : List Rule :=
  (op.batch? options).getD op.addedRule?.toList

theorem Operation.batch?_of_addedRule? {op : Operation} {rule : Rule}
    (h : op.addedRule? = some rule) (options : Probe.Options) : op.batch? options = none := by
  cases op with
  | add _ | addSimple _ => rfl
  | _ => cases h

namespace Engine

/-- The rules that an operation puts into the registry, as they came and as they are kept: the
valid ones of a batch that is loaded, or the one that is added behind those that are there. -/
def newRules (e : Engine) (now : Moment) (op : Operation) : List (Rule × CompiledRule) :=
  let after := (e.perform now op).2.registry.rules
  match op.batch? e.config.probes with
  | some rules => compiledPairs rules after
  | none => op.addedRule?.toList.zip (after.drop e.registry.rules.length)

/-- The identifiers that an engine assigns in an operation. -/
def assigned (e : Engine) (now : Moment) (op : Operation) : List String :=
  assignedIds (e.newRules now op)

/-- The identifiers that an engine assigns in a history. -/
def assignedAlong (e : Engine) : List (Moment × Operation) → List String
  | [] => []
  | (now, op) :: rest => e.assigned now op ++ (e.perform now op).2.assignedAlong rest

/-- **The identifiers after an operation.** -/
structure FreshIds (e : Engine) (now : Moment) (op : Operation) : Prop where
  /-- All valid rules are new, unless the operation is refused. -/
  complete : (e.perform now op).1.isRefusal = false →
    (e.newRules now op).map Prod.fst =
      (op.broughtRules e.config.probes).filter Rule.hasValidFields
  /-- The other rules were there before. -/
  others : ∃ left, left.Sublist e.registry.rules ∧
    (e.perform now op).2.registry.rules = left ++ (e.newRules now op).map Prod.snd
  /-- Rules keep the identifiers that they give themselves. -/
  kept : ∀ p ∈ e.newRules now op, p.1.hasBlankId = false → p.2.id = p.1.id
  /-- What is assigned is the identifier of one rule only. -/
  unique : ∀ id ∈ e.assigned now op, (e.perform now op).2.registry.usedIds.count id = 1
  /-- It is not given by a rule that comes with the operation, valid or not. -/
  notGiven : ∀ id ∈ e.assigned now op, id ∉ givenIds (op.broughtRules e.config.probes)

variable {e : Engine} {now : Moment} {op : Operation}

/-! ### Loading, adding and all the rest -/

theorem newRules_of_batch? {rules : List Rule} (h : op.batch? e.config.probes = some rules) :
    e.newRules now op = compiledPairs rules (e.load now rules).2.registry.rules := by
  rw [newRules, h, perform_of_batch? e now h]

theorem newRules_of_none (h : op.batch? e.config.probes = none) :
    e.newRules now op = op.addedRule?.toList.zip
      ((e.perform now op).2.registry.rules.drop e.registry.rules.length) := by
  rw [newRules, h]

/-- What an operation does that neither loads nor adds rules. -/
theorem perform_of_broughtRules_eq_nil (now : Moment) (hbatch : op.batch? e.config.probes = none)
    (hadded : op.addedRule? = none) :
    (e.perform now op).2.registry.ids = e.registry.ids ∧
      (e.perform now op).2.registry.rules.Sublist e.registry.rules := by
  have hmatched : ∀ after : Engine, Stems e after →
      after.registry.ids = e.registry.ids ∧ after.registry.rules.Sublist e.registry.rules := by
    intro after hstems
    exact ⟨hstems.ids, hstems.rules ▸ .refl _⟩
  cases op with
  | load rules => cases hbatch
  | loadBuiltin => cases hbatch
  | loadProbes source =>
    rw [perform, loadProbes]
    rw [Operation.batch?] at hbatch
    cases hread : Probe.importSource e.config.probes source with
    | error f => exact ⟨rfl, .refl _⟩
    | ok report =>
      rw [hread] at hbatch
      cases hbatch
  | importJson text =>
    change (RuleSet.ofJsonText text).toOption.map RuleSet.rules = none at hbatch
    rw [perform, importJson]
    cases hread : RuleSet.ofJsonText text with
    | error f => exact ⟨rfl, .refl _⟩
    | ok set =>
      rw [hread] at hbatch
      cases hbatch
  | importMessagePack bytes =>
    change (RuleSet.ofMessagePack? bytes).map RuleSet.rules = none at hbatch
    rw [perform, importMessagePack]
    cases hread : RuleSet.ofMessagePack? bytes with
    | none => exact ⟨rfl, .refl _⟩
    | some set =>
      rw [hread] at hbatch
      cases hbatch
  | add rule => cases hadded
  | addSimple rule => cases hadded
  | remove id =>
    rw [perform, remove, Registry.remove_eq]
    split
    · exact ⟨rfl, List.filter_sublist⟩
    · exact ⟨rfl, .refl _⟩
  | matchBanner banner => exact hmatched _ (stems_matchText e _ _)
  | matchResponse banner response => exact hmatched _ (stems_matchText e _ _)
  | bestMatch banner => exact hmatched _ (stems_matchText e _ _)
  | matchBatch banners schedule => exact hmatched _ (stems_matchBatch e _ banners schedule)
  | clearCache => exact ⟨rfl, .refl _⟩
  | sweep wakeups =>
    cases wakeups with
    | none => exact ⟨rfl, .refl _⟩
    | some instants => exact ⟨rfl, .refl _⟩

/-- An operation brings rules that get their identifiers, next to rules that stay. -/
structure Assigns (e : Engine) (now : Moment) (op : Operation) (taken : List String)
    (left : List CompiledRule) : Prop where
  complete : (e.perform now op).1.isRefusal = false →
    (e.newRules now op).map Prod.fst =
      (op.broughtRules e.config.probes).filter Rule.hasValidFields
  brought : ((e.newRules now op).map Prod.fst).Sublist (op.broughtRules e.config.probes)
  stays : left.Sublist e.registry.rules
  rules : (e.perform now op).2.registry.rules = left ++ (e.newRules now op).map Prod.snd
  inUse : left.map CompiledRule.id ⊆ taken
  fresh : AssignsFresh taken e.registry.ids (e.perform now op).2.registry.ids (e.newRules now op)
  notGiven : ∀ id ∈ e.assigned now op, id ∉ givenIds (op.broughtRules e.config.probes)

theorem Assigns.freshIds {taken : List String} {left : List CompiledRule}
    (h : Assigns e now op taken left) : FreshIds e now op where
  complete := h.complete
  others := ⟨left, h.stays, h.rules⟩
  kept := h.fresh.kept
  unique id hid := by
    have hgiven : id ∉ givenIds ((e.newRules now op).map Prod.fst) := fun hmem =>
      h.notGiven id hid (((h.brought.filter _).map _).subset hmem)
    have hcount := h.fresh.count_eq_one h.inUse hid hgiven
    rw [Registry.usedIds, h.rules, List.map_append, List.map_map]
    exact hcount
  notGiven := h.notGiven

theorem assigns_of_batch? {rules : List Rule} (h : op.batch? e.config.probes = some rules) :
    Assigns e now op (givenIds rules) [] := by
  have hnew : e.newRules now op = _ := newRules_of_batch? h
  have hlength : (e.load now rules).2.registry.rules.length =
      (rules.filter Rule.hasValidFields).length := length_compileFrom rules
  have hfst : (e.newRules now op).map Prod.fst = rules.filter Rule.hasValidFields := by
    rw [hnew, compiledPairs, List.map_fst_zip hlength.ge]
  have hbrought : op.broughtRules e.config.probes = rules := by
    rw [Operation.broughtRules, h, Option.getD_some]
  have hfresh : AssignsFresh (givenIds rules) e.registry.ids (e.load now rules).2.registry.ids
      (e.newRules now op) := by
    rw [hnew]
    exact assignsFresh_compileFrom rules _ _
  constructor
  · intro _
    rw [hfst, hbrought]
  · rw [hfst, hbrought]
    exact List.filter_sublist
  · exact List.nil_sublist _
  · rw [perform_of_batch? e now h, hnew, compiledPairs, List.map_snd_zip hlength.le,
      List.nil_append]
  · exact List.nil_subset _
  · rw [perform_of_batch? e now h]
    exact hfresh
  · rw [hbrought]
    exact hfresh.unused

/-- A rule that is added comes behind all others. -/
theorem assigns_of_add {rule : Rule} {id : String} {after : Engine}
    (hadded : op.addedRule? = some rule) (hadd : e.add now rule = (.ok id, after)) :
    Assigns e now op e.registry.usedIds e.registry.rules := by
  have hperform : e.perform now op = (.added id, after) := by
    rw [perform_of_addedRule hadded, hadd]
    rfl
  have hbatch := Operation.batch?_of_addedRule? hadded e.config.probes
  have hbrought : op.broughtRules e.config.probes = [rule] := by
    rw [Operation.broughtRules, hbatch, Option.getD_none, hadded, Option.toList_some]
  obtain ⟨hcheck, hfree, c, hc, -, rfl⟩ := add_eq_ok hadd
  have hvalid : rule.hasValidFields = true :=
    Rule.hasValidFields_iff.mpr (Rule.checkFields_of_check hcheck)
  have hnew : e.newRules now op = [(rule, c.1)] := by
    rw [newRules_of_none hbatch, hadded, hperform]
    simp
  have hfresh : AssignsFresh e.registry.usedIds e.registry.ids c.2 (e.newRules now op) := by
    rw [hnew, hc]
    exact assignsFresh_compile rule _ _
  constructor
  · intro _
    rw [hnew, hbrought, List.filter_cons_of_pos hvalid]
    rfl
  · rw [hnew, hbrought]
    exact .refl _
  · exact .refl _
  · rw [hnew, hperform]
    rfl
  · exact List.Subset.refl _
  · rw [hperform]
    exact hfresh
  · -- if anything is assigned, then the rule gives no identifier
    intro id hid
    rw [assigned, hnew] at hid
    rw [hbrought]
    cases hblank : rule.hasBlankId with
    | true => simp [givenIds, hblank]
    | false => simp [assignedIds, hblank] at hid

/-- Nothing is brought into the registry. -/
theorem assigns_of_newRules_eq_nil {left : List CompiledRule} (hnew : e.newRules now op = [])
    (hids : (e.perform now op).2.registry.ids = e.registry.ids)
    (hrules : (e.perform now op).2.registry.rules = left) (hleft : left.Sublist e.registry.rules)
    (hcomplete : (e.perform now op).1.isRefusal = false →
      (op.broughtRules e.config.probes).filter Rule.hasValidFields = []) :
    Assigns e now op (left.map CompiledRule.id) left := by
  constructor
  · intro hdone
    rw [hnew, hcomplete hdone]
    rfl
  · rw [hnew]
    exact List.nil_sublist _
  · exact hleft
  · rw [hnew, hrules, List.map_nil, List.append_nil]
  · exact List.Subset.refl _
  · rw [hnew, hids]
    exact .nil _ _
  · intro id hid
    rw [assigned, hnew] at hid
    exact absurd hid List.not_mem_nil

/-- **Every operation** brings its rules in one of these ways. -/
theorem exists_assigns (e : Engine) (now : Moment) (op : Operation) :
    ∃ taken left, Assigns e now op taken left := by
  cases hbatch : op.batch? e.config.probes with
  | some rules => exact ⟨_, _, assigns_of_batch? hbatch⟩
  | none =>
    cases hadded : op.addedRule? with
    | some rule =>
      obtain ⟨id, after, hadd⟩ | ⟨answer, hrefused⟩ := exists_add_or_refused (e := e) hadded now
      · exact ⟨_, _, assigns_of_add hadded hadd⟩
      · have hperform := perform_of_refused hrefused now
        have hnew : e.newRules now op = [] := by
          rw [newRules_of_none hbatch, hperform, List.drop_length, List.zip_nil_right]
        refine ⟨_, _, assigns_of_newRules_eq_nil hnew ?_ ?_ (.refl _) fun hdone => ?_⟩
        · rw [hperform]
        · rw [hperform]
        · rw [hperform, hrefused.isRefusal] at hdone
          cases hdone
    | none =>
      obtain ⟨hids, hrules⟩ := perform_of_broughtRules_eq_nil now hbatch hadded
      have hnew : e.newRules now op = [] := by
        rw [newRules_of_none hbatch, hadded]
        rfl
      refine ⟨_, _, assigns_of_newRules_eq_nil hnew hids rfl hrules fun _ => ?_⟩
      rw [Operation.broughtRules, hbatch, hadded]
      rfl

theorem freshIds_perform (e : Engine) (now : Moment) (op : Operation) : FreshIds e now op := by
  obtain ⟨taken, left, h⟩ := e.exists_assigns now op
  exact h.freshIds

/-! ### Histories -/

/-- What an operation assigns is drawn from the source, which goes on from there. -/
theorem draws_perform (e : Engine) (now : Moment) (op : Operation) :
    e.registry.ids.Draws (e.perform now op).2.registry.ids (e.assigned now op) := by
  obtain ⟨taken, left, h⟩ := e.exists_assigns now op
  exact h.fresh.draws

theorem draws_run (e : Engine) (history : List (Moment × Operation)) :
    e.registry.ids.Draws (e.run history).2.registry.ids (e.assignedAlong history) := by
  induction history generalizing e with
  | nil => exact .refl _
  | cons step rest ih => exact (e.draws_perform step.1 step.2).append (ih _)

/-- **What is assigned is new**, at every moment of a history: it is the identifier of no other rule
of the registry and is not given by any rule of its batch, and no identifier is assigned twice over
the whole history. Rules that give themselves an identifier keep it. -/
theorem assigned_fresh_along (e : Engine) (history : List (Moment × Operation)) (now : Moment)
    (op : Operation) :
    FreshIds (e.run history).2 now op ∧ (e.assignedAlong (history ++ [(now, op)])).Nodup :=
  ⟨freshIds_perform _ now op, (e.draws_run _).nodup⟩

/-- Identifiers of the form that is assigned, before and after the rules without one, one of them in
a rule that is left out. Then a rule is added, removed and added again. -/
def numberedHistory : List (Moment × Operation) :=
  [(⟨0, "2024-01-01 00:00:00"⟩, .load
      [{ id := "rule_2", service := "a", pattern := "a" },
        { service := "b", pattern := "b" },
        { id := " \t", service := "c", pattern := "c" },
        { id := "rule_4", service := "", pattern := "d" },
        { service := "e", pattern := "e" },
        { id := "rule_5", service := "f", pattern := "f" }]),
    (⟨1, "2024-01-01 00:00:01"⟩, .add { service := "g", pattern := "g" }),
    (⟨2, "2024-01-01 00:00:02"⟩, .remove "rule_7")]

/-- The number of the rule that was removed is not used again. -/
theorem assigned_fresh_along_numberedHistory :
    let e := start {} 100
    let now : Moment := ⟨3, "2024-01-01 00:00:03"⟩
    let op : Operation := .add { service := "h", pattern := "h" }
    e.assignedAlong (numberedHistory ++ [(now, op)]) =
        ["rule_1", "rule_3", "rule_6", "rule_7", "rule_8"] ∧
      ((e.run numberedHistory).2.perform now op).2.registry.usedIds =
        ["rule_2", "rule_1", "rule_3", "rule_6", "rule_5", "rule_8"] ∧
      FreshIds (e.run numberedHistory).2 now op ∧
      (e.assignedAlong (numberedHistory ++ [(now, op)])).Nodup := by
  intro e now op
  exact ⟨by decide +kernel, by decide +kernel, assigned_fresh_along e numberedHistory now op⟩

end Engine
end BannerMatch
