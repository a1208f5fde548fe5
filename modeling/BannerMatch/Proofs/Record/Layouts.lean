import BannerMatch.Record.Layouts

/-!
# Records and their layouts

`Slot.copy` carries the value of one field from a record over to another one, and `copyFields` the
values of several. A layout is `Lossless` over a record to start with if its names are different and
copying all fields gives the record that they come from; the layouts of rules and of rule sets are.

`Pending` says which fields are still to come while a record is read, in any format.
-/

namespace BannerMatch

variable {α : Type}

/-- The record `b` with the value that the field has in `a`. -/
def Slot.copy (slot : Slot α) (a b : α) : α :=
  match slot with
  | .text get set => set (get a) b
  | .byte get set => set (get a) b
  | .rules get set => set (get a) b

/-- The record `b` with the values that the fields have in `a`. -/
def copyFields (fields : List (RecordField α)) (a b : α) : α :=
  fields.foldl (fun b f => f.slot.copy a b) b

@[simp] theorem copyFields_nil (a b : α) : copyFields [] a b = b := rfl

@[simp] theorem copyFields_cons (f : RecordField α) (fields : List (RecordField α)) (a b : α) :
    copyFields (f :: fields) a b = copyFields fields a (f.slot.copy a b) := rfl

/-- Reading a record of a layout, the fields that are still to come after those with the names
`seen`: each of them once, and among them all that are required and have not been given. -/
structure Pending (layout : Layout α) (seen : List String) (fields : List (RecordField α)) :
    Prop where
  mem : ∀ f ∈ fields, f ∈ layout
  nodup : (fields.map RecordField.name).Nodup
  fresh : ∀ f ∈ fields, f.name ∉ seen
  required : ∀ f ∈ layout, f.isRequired = true →
    f.name ∈ fields.map RecordField.name ∨ f.name ∈ seen

/-- At the start the whole layout is still to come. -/
theorem pending_layout {layout : Layout α} (h : layout.names.Nodup) :
    Pending layout [] layout where
  mem _ hf := hf
  nodup := h
  fresh _ _ := List.not_mem_nil
  required _ hf _ := .inl (List.mem_map_of_mem hf)

/-- One field has been given. -/
theorem Pending.tail {layout : Layout α} {seen : List String} {f : RecordField α}
    {fields : List (RecordField α)} (h : Pending layout seen (f :: fields)) :
    Pending layout (f.name :: seen) fields := by
  obtain ⟨hfirst, hnodup⟩ := List.nodup_cons.mp h.nodup
  refine ⟨fun g hg => h.mem g (List.mem_cons_of_mem _ hg), hnodup, ?_, ?_⟩
  · intro g hg hmem
    rcases List.mem_cons.mp hmem with heq | hmem
    · exact hfirst (heq ▸ List.mem_map_of_mem hg)
    · exact h.fresh g (List.mem_cons_of_mem _ hg) hmem
  · intro g hg hrequired
    rcases h.required g hg hrequired with hname | hseen
    · rw [List.map_cons, List.mem_cons] at hname
      rcases hname with hname | hname
      · exact .inr (List.mem_cons.mpr (.inl hname))
      · exact .inl hname
    · exact .inr (List.mem_cons_of_mem _ hseen)

namespace Layout

/-- Nothing of a record gets lost when its fields are copied to `start`. -/
structure Lossless (l : Layout α) (start : α) : Prop where
  nodup : l.names.Nodup
  copy : ∀ a : α, copyFields l a start = a

/-- A field is found by any test that it passes and no field with another name does. -/
theorem find?_eq_some {l : Layout α} (hl : l.names.Nodup) {f : RecordField α} (hf : f ∈ l)
    {p : RecordField α → Bool} (hp : p f = true) (hother : ∀ g, p g = true → g.name = f.name) :
    l.find? p = some f := by
  induction l with
  | nil => cases hf
  | cons g rest ih =>
    rw [names, List.map_cons, List.nodup_cons] at hl
    by_cases hg : p g = true
    · rw [List.find?_cons_of_pos hg]
      rcases List.mem_cons.mp hf with rfl | hf
      · rfl
      · exact absurd (List.mem_map.mpr ⟨f, hf, (hother g hg).symm⟩) hl.1
    · rw [List.find?_cons_of_neg hg]
      rcases List.mem_cons.mp hf with rfl | hf
      · exact absurd hp hg
      · exact ih hl.2 hf

/-- A field is found by its name. -/
theorem field?_eq_some {l : Layout α} (hl : l.names.Nodup) {f : RecordField α} (hf : f ∈ l) :
    l.field? f.name = some f :=
  find?_eq_some hl hf (beq_self_eq_true _) fun _ hg => eq_of_beq hg

end Layout

theorem Rule.lossless_layout : Rule.layout.Lossless {} where
  nodup := by decide
  copy r := by
    simp only [Rule.layout, copyFields_cons, copyFields_nil, Slot.copy]

/-- No field of a rule holds rules. -/
theorem Rule.slot_ne_rules : ∀ f ∈ Rule.layout, ∀ get set, f.slot ≠ .rules get set := by
  simp [Rule.layout]

/-- The one field of a rule set that holds rules holds all of them. -/
theorem RuleSet.slot_rules :
    ∀ f ∈ RuleSet.layout, ∀ get set, f.slot = .rules get set → get = RuleSet.rules := by
  simp only [RuleSet.layout, List.forall_mem_cons, reduceCtorEq, false_implies, implies_true,
    true_and, Slot.rules.injEq, List.not_mem_nil, and_true]
  rintro get set ⟨rfl, rfl⟩
  rfl

theorem RuleSet.lossless_layout : RuleSet.layout.Lossless {} where
  nodup := by decide
  copy _ := rfl

end BannerMatch
