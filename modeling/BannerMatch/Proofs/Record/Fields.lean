import BannerMatch.Proofs.Record.Layouts
import Mathlib.Tactic

/-!
# Records as the values of their fields

A layout is `Lawful` if a record is nothing but the values of its fields: each is set without
touching the others, and two records that agree on all fields are equal. The layouts of rules, rule
sets and services are.
-/

namespace BannerMatch

variable {α : Type}

/-- Two records have the same value in a field. -/
def Slot.Agrees (slot : Slot α) (a b : α) : Prop :=
  match slot with
  | .text get _ => get a = get b
  | .byte get _ => get a = get b
  | .rules get _ => get a = get b

theorem Slot.Agrees.symm {slot : Slot α} {a b : α} (h : slot.Agrees a b) : slot.Agrees b a := by
  cases slot <;> exact Eq.symm h

theorem Slot.Agrees.trans {slot : Slot α} {a b c : α} (h : slot.Agrees a b)
    (hbc : slot.Agrees b c) : slot.Agrees a c := by
  cases slot <;> exact Eq.trans h hbc

/-- Only the field itself is copied. -/
theorem Slot.Agrees.copy_eq {slot : Slot α} {a b : α} (h : slot.Agrees a b) (c : α) :
    slot.copy a c = slot.copy b c := by
  cases slot with
  | text get set => exact congrArg (set · c) h
  | byte get set => exact congrArg (set · c) h
  | rules get set => exact congrArg (set · c) h

/-- What is put into the field is what it holds then. -/
def Slot.Keeps (slot : Slot α) : Prop :=
  match slot with
  | .text get set => ∀ v a, get (set v a) = v
  | .byte get set => ∀ v a, get (set v a) = v
  | .rules get set => ∀ v a, get (set v a) = v

theorem Slot.Keeps.agrees_copy {slot : Slot α} (h : slot.Keeps) (a b : α) :
    slot.Agrees (slot.copy a b) a := by
  cases slot with
  | text get set => exact h (get a) b
  | byte get set => exact h (get a) b
  | rules get set => exact h (get a) b

/-- A record is nothing but the values of its fields. -/
structure Layout.Lawful (l : Layout α) : Prop where
  nodup : l.names.Nodup
  keeps : ∀ f ∈ l, f.slot.Keeps
  frame : ∀ f ∈ l, ∀ g ∈ l, f.name ≠ g.name → ∀ a b, f.slot.Agrees (g.slot.copy a b) b
  ext : ∀ a b, (∀ f ∈ l, f.slot.Agrees a b) → a = b

/-- A field is known by its name. -/
theorem Layout.Lawful.eq_of_name {l : Layout α} (hl : l.Lawful) {f g : RecordField α} (hf : f ∈ l)
    (hg : g ∈ l) (hname : f.name = g.name) : f = g :=
  List.inj_on_of_nodup_map hl.nodup hf hg hname

/-- Putting a value into one field leaves those before it and after it alone. -/
theorem Layout.Lawful.frame_others {l done fields : Layout α} {f g : RecordField α}
    (hl : l.Lawful) (hlayout : l = done ++ f :: fields) (hg : g ∈ done ++ fields) (a b : α) :
    g.slot.Agrees (f.slot.copy a b) b := by
  have hnodup := hl.nodup
  rw [hlayout, Layout.names, List.map_append, List.map_cons, List.nodup_middle,
    ← List.map_append] at hnodup
  have hne : g.name ≠ f.name :=
    fun heq => (List.nodup_cons.mp hnodup).1 (heq ▸ List.mem_map_of_mem hg)
  have hmem : g ∈ l := by
    rw [hlayout]
    simp only [List.mem_append, List.mem_cons] at hg ⊢
    tauto
  exact hl.frame g hmem f (by simp [hlayout]) hne a b

theorem Layout.Lawful.field?_eq_some_iff {l : Layout α} (hl : l.Lawful) {f : RecordField α}
    {name : String} : l.field? name = some f ↔ f ∈ l ∧ f.name = name := by
  constructor
  · intro h
    have hname : (f.name == name) = true :=
      List.find?_some (p := fun g : RecordField α => g.name == name) h
    exact ⟨List.mem_of_find?_eq_some h, eq_of_beq hname⟩
  · rintro ⟨hf, rfl⟩
    exact Layout.field?_eq_some hl.nodup hf

theorem Layout.field?_eq_none_iff {l : Layout α} {name : String} :
    l.field? name = none ↔ name ∉ l.names := by
  simp [Layout.field?, Layout.names]

theorem Rule.lawful_layout : Rule.layout.Lawful where
  nodup := by decide
  keeps := by simp [Rule.layout, Slot.Keeps]
  frame := by simp [Rule.layout, Slot.Agrees, Slot.copy]
  ext a b h := by
    simp only [Rule.layout, List.forall_mem_cons, Slot.Agrees] at h
    cases a
    cases b
    simp_all

theorem SimpleRule.lawful_layout : SimpleRule.layout.Lawful where
  nodup := by decide
  keeps := by simp [SimpleRule.layout, Slot.Keeps]
  frame := by simp [SimpleRule.layout, Slot.Agrees, Slot.copy]
  ext a b h := by
    simp only [SimpleRule.layout, List.forall_mem_cons, Slot.Agrees] at h
    cases a
    cases b
    simp_all

theorem RuleSet.lawful_layout : RuleSet.layout.Lawful where
  nodup := by decide
  keeps := by simp [RuleSet.layout, Slot.Keeps]
  frame := by simp [RuleSet.layout, Slot.Agrees, Slot.copy]
  ext a b h := by
    simp only [RuleSet.layout, List.forall_mem_cons, Slot.Agrees] at h
    cases a
    cases b
    simp_all

theorem Service.lawful_layout : Service.layout.Lawful where
  nodup := by decide
  keeps := by simp [Service.layout, Slot.Keeps]
  frame := by simp [Service.layout, Slot.Agrees, Slot.copy]
  ext a b h := by
    simp only [Service.layout, List.forall_mem_cons, Slot.Agrees] at h
    cases a
    cases b
    simp_all

end BannerMatch
