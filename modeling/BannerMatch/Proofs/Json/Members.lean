import BannerMatch.Proofs.Json.Exact
import BannerMatch.Proofs.Record.Fields

/-!
# Which records objects stand for

`Describes` says which record the members of an object stand for: every field that is named has the
value that is written for it, every other field that of the record to start with, and no field is
named twice. Members may stand in any order, their names may be spelled in any way, and what is
written for other names does not matter.

Members are looked at one by one: `Gives` is what one of them does to the fields seen so far and to
the record read so far, and `Continues` says what the members still to come stand for. One member
leads from one to the other (`continues_cons`).
-/

namespace BannerMatch

open Json

variable {α : Type}

/-! ### What members stand for -/

/-- The characters are the value that the field has in a record; `rules` says so of lists of
rules. -/
def Slot.Writes (rules : List Char → List Rule → Prop) (slot : Slot α) (cs : List Char) (a : α) :
    Prop :=
  match slot with
  | .text get _ => IsText cs (get a)
  | .byte get _ => cs = (toString (get a)).toList
  | .rules get _ => rules cs (get a)

theorem Slot.Writes.of_agrees {rules : List Char → List Rule → Prop} {slot : Slot α}
    {cs : List Char} {a b : α} (h : slot.Writes rules cs a) (hab : slot.Agrees a b) :
    slot.Writes rules cs b := by
  cases slot
  all_goals
    simp only [Slot.Writes, Slot.Agrees] at h hab ⊢
    rwa [← hab]

namespace Json

/-- The name of a member, as it is spelled. -/
def Member.Names (m : Member) (name : String) : Prop := Spells m.label name.toList

theorem Member.Names.unique {m : Member} {name other : String} (h : m.Names name)
    (hother : m.Names other) : name = other :=
  String.toList_inj.mp (Spells.unique h hother)

/-- A record agrees with what is written for the fields that members name. -/
structure Fits (rules : List Char → List Rule → Prop) (layout : Layout α) (members : List Member)
    (a : α) : Prop where
  /-- Every name is a text. -/
  named : ∀ m ∈ members, ∃ name, m.Names name
  /-- Every field that is named has the value that is written for it. -/
  given : ∀ f ∈ layout, ∀ m ∈ members, m.Names f.name → f.slot.Writes rules m.item.value a
  /-- No field is named twice. -/
  once : members.Pairwise fun m k => ∀ f ∈ layout, m.Names f.name → ¬ k.Names f.name

/-- The members of an object stand for the record; `start` has the fields that are not named. -/
structure Describes (rules : List Char → List Rule → Prop) (layout : Layout α) (start : α)
    (members : List Member) (a : α) : Prop extends Fits rules layout members a where
  /-- The fields that are not named need not be named. -/
  missing : ∀ f ∈ layout, (∀ m ∈ members, ¬ m.Names f.name) →
    f.isRequired = false ∧ f.slot.Agrees a start

/-- The items of a list are the values of the fields in order; the last fields, if there is no item
for them, are those of `start`. -/
def InOrder (rules : List Char → List Rule → Prop) (start a : α) : Layout α → List Item → Prop
  | [], items => items = []
  | f :: fields, [] =>
      f.isRequired = false ∧ f.slot.Agrees a start ∧ InOrder rules start a fields []
  | f :: fields, i :: items =>
      f.slot.Writes rules i.value a ∧ InOrder rules start a fields items

/-- The characters are a record: an object whose members describe it, or a list of its values. -/
def IsRecord (rules : List Char → List Rule → Prop) (layout : Layout α) (start : α)
    (cs : List Char) (a : α) : Prop :=
  (∃ close : Gap, ∃ members : List Member, (∀ m ∈ members, IsValue m.item.value) ∧
    cs = objectText close.closing (members.map Member.text) ∧
    Describes rules layout start members a) ∨
  ∃ close : Gap, ∃ items : List Item, (∀ i ∈ items, IsValue i.value) ∧
    cs = listText close.closing (items.map Item.text) ∧ InOrder rules start a layout items

variable {rules : List Char → List Rule → Prop} {layout : Layout α}

theorem InOrder.of_agrees {b c a : α} {fields : Layout α} {items : List Item}
    (h : InOrder rules b a fields items) (hbc : ∀ f ∈ fields, f.slot.Agrees b c) :
    InOrder rules c a fields items := by
  induction fields generalizing items with
  | nil => exact h
  | cons f fields ih =>
    obtain ⟨hf, hbc⟩ := List.forall_mem_cons.mp hbc
    cases items with
    | nil => exact ⟨h.1, h.2.1.trans hf, ih h.2.2 hbc⟩
    | cons i items => exact ⟨h.1, ih h.2 hbc⟩

theorem Fits.tail {m : Member} {members : List Member} {a : α}
    (h : Fits rules layout (m :: members) a) : Fits rules layout members a where
  named k hk := h.named k (List.mem_cons_of_mem m hk)
  given f hf k hk := h.given f hf k (List.mem_cons_of_mem m hk)
  once := (List.pairwise_cons.mp h.once).2

/-! ### One member -/

/-- The members still to come stand for the record, after those that name the fields `state.1` and
make the record `state.2`. -/
structure Continues (rules : List Char → List Rule → Prop) (layout : Layout α)
    (state : List String × α) (members : List Member) (a : α) : Prop
    extends Fits rules layout members a where
  fresh : ∀ f ∈ layout, f.name ∈ state.1 → ∀ m ∈ members, ¬ m.Names f.name
  missing : ∀ f ∈ layout, (∀ m ∈ members, ¬ m.Names f.name) →
    (f.isRequired = true → f.name ∈ state.1) ∧ f.slot.Agrees a state.2

/-- At the start no field has been named. -/
theorem continues_nil_iff {start : α} {members : List Member} {a : α} :
    Continues rules layout ([], start) members a ↔ Describes rules layout start members a := by
  constructor
  · intro h
    refine ⟨h.toFits, fun f hf hnone => ?_⟩
    obtain ⟨hrequired, hagrees⟩ := h.missing f hf hnone
    exact ⟨by simpa using hrequired, hagrees⟩
  · intro h
    refine ⟨h.toFits, fun f hf hseen => absurd hseen List.not_mem_nil, fun f hf hnone => ?_⟩
    obtain ⟨hrequired, hagrees⟩ := h.missing f hf hnone
    exact ⟨fun hr => absurd hr (by simp [hrequired]), hagrees⟩

/-- What one member does to the names of the fields seen so far and to the record. -/
inductive Gives (rules : List Char → List Rule → Prop) (layout : Layout α) (m : Member) :
    List String × α → List String × α → Prop
  /-- A member that names no field. -/
  | ignored {name : String} {state : List String × α} (hm : m.Names name)
      (hname : name ∉ layout.names) : Gives rules layout m state state
  /-- A member that names a field for the first time. -/
  | field {f : RecordField α} {seen : List String} {b c : α} (hf : f ∈ layout)
      (hm : m.Names f.name) (hfresh : f.name ∉ seen) (hwrites : f.slot.Writes rules m.item.value c)
      (hcopy : c = f.slot.copy c b) : Gives rules layout m (seen, b) (f.name :: seen, c)

/-- The first of the members still to come is read, and those after it are still to come. -/
theorem Continues.exists_gives (hl : layout.Lawful) {m : Member} {members : List Member}
    {state : List String × α} {a : α} (h : Continues rules layout state (m :: members) a) :
    ∃ next, Gives rules layout m state next ∧ Continues rules layout next members a := by
  obtain ⟨seen, b⟩ := state
  obtain ⟨name, hm⟩ := h.named m List.mem_cons_self
  have hfirst := (List.pairwise_cons.mp h.once).1
  have hfresh : ∀ f ∈ layout, f.name ∈ seen → ∀ k ∈ members, ¬ k.Names f.name :=
    fun f hf hseen k hk => h.fresh f hf hseen k (List.mem_cons_of_mem m hk)
  -- a field that is not named from here on has not been named if the member does not name it
  have hmissing : ∀ f ∈ layout, f.name ≠ name → (∀ k ∈ members, ¬ k.Names f.name) →
      (f.isRequired = true → f.name ∈ seen) ∧ f.slot.Agrees a b := by
    intro f hf hne hnone
    refine h.missing f hf fun k hk hnames => ?_
    rcases List.mem_cons.mp hk with rfl | hk
    · exact hne (hnames.unique hm)
    · exact hnone k hk hnames
  by_cases hfield : name ∈ layout.names
  · obtain ⟨f, hf, rfl⟩ := List.mem_map.mp hfield
    have hagrees : f.slot.Agrees a (f.slot.copy a b) := ((hl.keeps f hf).agrees_copy a b).symm
    refine ⟨(f.name :: seen, f.slot.copy a b), ?_, h.toFits.tail, ?_, ?_⟩
    · refine .field hf hm (fun hseen => ?_) ?_ (hagrees.copy_eq b)
      · exact h.fresh f hf hseen m List.mem_cons_self hm
      · exact (h.given f hf m List.mem_cons_self hm).of_agrees hagrees
    · intro g hg hseen k hk hnames
      rcases List.mem_cons.mp hseen with heq | hseen
      · exact hfirst k hk f hf hm (heq ▸ hnames)
      · exact hfresh g hg hseen k hk hnames
    · intro g hg hnone
      by_cases heq : g.name = f.name
      · obtain rfl := hl.eq_of_name hg hf heq
        exact ⟨fun _ => List.mem_cons_self, hagrees⟩
      · obtain ⟨hrequired, hab⟩ := hmissing g hg heq hnone
        exact ⟨fun hr => List.mem_cons_of_mem _ (hrequired hr),
          hab.trans (hl.frame g hg f hf heq a b).symm⟩
  · refine ⟨(seen, b), .ignored hm hfield, h.toFits.tail, hfresh, fun f hf hnone => ?_⟩
    exact hmissing f hf (fun heq => hfield (heq ▸ List.mem_map_of_mem hf)) hnone

/-- A member may stand before others that it leads to. -/
theorem Gives.continues (hl : layout.Lawful) {m : Member} {members : List Member}
    {state next : List String × α} {a : α} (hgives : Gives rules layout m state next)
    (h : Continues rules layout next members a) :
    Continues rules layout state (m :: members) a := by
  cases hgives with
  | @ignored name state hm hname =>
    -- the member names no field
    have hnone : ∀ f ∈ layout, ¬ m.Names f.name :=
      fun f hf hnames => hname (hm.unique hnames ▸ List.mem_map_of_mem hf)
    refine ⟨⟨?_, ?_, ?_⟩, ?_, ?_⟩
    · exact List.forall_mem_cons.mpr ⟨⟨name, hm⟩, h.named⟩
    · intro f hf
      exact List.forall_mem_cons.mpr ⟨fun hnames => absurd hnames (hnone f hf), h.given f hf⟩
    · exact List.pairwise_cons.mpr ⟨fun k hk f hf hnames => absurd hnames (hnone f hf), h.once⟩
    · intro f hf hseen
      exact List.forall_mem_cons.mpr ⟨hnone f hf, h.fresh f hf hseen⟩
    · exact fun f hf hmissing => h.missing f hf (List.forall_mem_cons.mp hmissing).2
  | @field f seen b c hf hm hfresh hwrites hcopy =>
    -- the member names this field alone, and no member after it does
    have honly : ∀ g ∈ layout, m.Names g.name → g = f :=
      fun g hg hnames => hl.eq_of_name hg hf (hnames.unique hm)
    have hafter : ∀ k ∈ members, ¬ k.Names f.name := h.fresh f hf List.mem_cons_self
    refine ⟨⟨?_, ?_, ?_⟩, ?_, ?_⟩
    · exact List.forall_mem_cons.mpr ⟨⟨f.name, hm⟩, h.named⟩
    · intro g hg
      refine List.forall_mem_cons.mpr ⟨fun hnames => ?_, h.given g hg⟩
      obtain rfl := honly g hg hnames
      exact hwrites.of_agrees (h.missing g hg hafter).2.symm
    · refine List.pairwise_cons.mpr ⟨fun k hk g hg hnames => ?_, h.once⟩
      obtain rfl := honly g hg hnames
      exact hafter k hk
    · intro g hg hseen
      refine List.forall_mem_cons.mpr ⟨fun hnames => ?_, ?_⟩
      · obtain rfl := honly g hg hnames
        exact hfresh hseen
      · exact h.fresh g hg (List.mem_cons_of_mem _ hseen)
    · intro g hg hnone
      obtain ⟨hnotNamed, hnone⟩ := List.forall_mem_cons.mp hnone
      have hne : g.name ≠ f.name := fun heq => hnotNamed (heq ▸ hm)
      obtain ⟨hrequired, hac⟩ := h.missing g hg hnone
      refine ⟨fun hr => (List.mem_cons.mp (hrequired hr)).resolve_left hne, hac.trans ?_⟩
      rw [hcopy]
      exact hl.frame g hg f hf hne c b

/-- **One member and those after it.** -/
theorem continues_cons (hl : layout.Lawful) {m : Member} {members : List Member}
    {state : List String × α} {a : α} :
    Continues rules layout state (m :: members) a ↔
      ∃ next, Gives rules layout m state next ∧ Continues rules layout next members a := by
  constructor
  · exact Continues.exists_gives hl
  · rintro ⟨next, hgives, h⟩
    exact hgives.continues hl h

/-- At the end the record is as it has been read. -/
theorem continues_end (hl : layout.Lawful) {state : List String × α} {a : α} :
    Continues rules layout state [] a ↔
      (∀ f ∈ layout, f.isRequired = true → f.name ∈ state.1) ∧ a = state.2 := by
  constructor
  · intro h
    have hmissing := fun f hf => h.missing f hf fun m hm => absurd hm List.not_mem_nil
    exact ⟨fun f hf => (hmissing f hf).1, hl.ext a state.2 fun f hf => (hmissing f hf).2⟩
  · rintro ⟨hrequired, rfl⟩
    refine ⟨⟨?_, ?_, .nil⟩, ?_, fun f hf _ => ⟨hrequired f hf, ?_⟩⟩
    · simp
    · simp
    · simp
    · cases f.slot <;> rfl

end Json

end BannerMatch
