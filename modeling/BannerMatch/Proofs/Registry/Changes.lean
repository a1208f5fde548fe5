import BannerMatch.Registry.Basic
import Mathlib.Tactic

/-!
# Changes of a registry

What adding and removing a rule come to, case by case (`add_cases`, `remove_eq`). A rule that is
not added and an identifier that is not in use leave the registry as it was.
-/

namespace BannerMatch
namespace Registry

variable (r : Registry)

theorem has_iff (id : String) : r.has id = true ↔ id ∈ r.usedIds := List.contains_iff_mem

/-- **When a rule is added**, and what the registry is in each case. -/
theorem add_cases (now : String) (rule : Rule) :
    (∃ f, rule.check = .error f ∧ r.add now rule = (.error (.invalidRule f), r)) ∨
    (rule.check = .ok () ∧ rule.id ∈ r.usedIds ∧
      r.add now rule = (.error (.duplicateId rule.id), r)) ∨
    (rule.check = .ok () ∧ rule.id ∉ r.usedIds ∧ ∃ c : CompiledRule × IdSource,
      c = rule.compile (r.defaults now) r.usedIds r.ids ∧
      r.add now rule = (.ok c.1.id,
        { r with rules := r.rules ++ [c.1], cache := r.cache.invalidate, ids := c.2 })) := by
  rw [add]
  cases hcheck : rule.check with
  | error f => exact .inl ⟨f, rfl, rfl⟩
  | ok u =>
    right
    by_cases hused : r.has rule.id
    · exact .inl ⟨rfl, (r.has_iff _).mp hused, if_pos hused⟩
    · exact .inr ⟨rfl, fun hmem => hused ((r.has_iff _).mpr hmem), _, rfl, if_neg hused⟩

/-- The identifier of a rule that is added, or why it is not added. -/
theorem add_fst (now : String) (rule : Rule) :
    (r.add now rule).1 = match rule.check with
      | .error f => .error (.invalidRule f)
      | .ok () =>
          if r.has rule.id then .error (.duplicateId rule.id)
          else .ok (rule.compile (r.defaults now) r.usedIds r.ids).1.id := by
  rw [add]
  cases rule.check with
  | error f => rfl
  | ok _ =>
    dsimp only
    split <;> rfl

/-- Nothing is left out exactly if no rule has the identifier. -/
theorem length_filter_ne_eq_iff (id : String) :
    (r.rules.filter fun c => c.id != id).length = r.rules.length ↔ id ∉ r.usedIds := by
  rw [List.length_filter_eq_length_iff, usedIds, List.mem_map, not_exists]
  refine forall_congr' fun c => ?_
  rw [not_and, bne_iff_ne]

/-- **What a removal comes to.** -/
theorem remove_eq (id : String) :
    r.remove id =
      if r.has id then
        (true, { r with
          rules := r.rules.filter fun c => c.id != id
          cache := r.cache.invalidate })
      else (false, r) := by
  rw [remove]
  by_cases hused : id ∈ r.usedIds
  · have hlength : (r.rules.filter fun c => c.id != id).length ≠ r.rules.length :=
      fun h => (r.length_filter_ne_eq_iff id).mp h hused
    rw [if_pos ((r.has_iff id).mpr hused)]
    simp [hlength]
  · -- every rule is left, so the list of rules is the same
    have hlength := (r.length_filter_ne_eq_iff id).mpr hused
    have hrules : (r.rules.filter fun c => c.id != id) = r.rules :=
      List.filter_sublist.eq_of_length hlength
    rw [if_neg fun h => hused ((r.has_iff id).mp h), hrules]
    simp

end Registry
end BannerMatch
