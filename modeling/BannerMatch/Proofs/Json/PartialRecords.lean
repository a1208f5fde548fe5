import BannerMatch.Proofs.Json.Decoding

/-!
# Objects with some of the fields of a record

What is read of an object depends on its members alone, and not on their order, on the white space,
on how names and texts are spelled or on members with other names: `Settled` says what is read, when
it is, and that anything else is a fault. Rules, rules as users write them and rule sets are all
settled in this sense (`settled_texts`).
-/

namespace BannerMatch

open Json

variable {α : Type}

/-- The characters are a value for the field. -/
def Slot.Suits (rules : List Char → List Rule → Prop) (slot : Slot α) (cs : List Char) : Prop :=
  match slot with
  | .text _ _ => ∃ s, IsText cs s
  | .byte _ _ => ∃ n : UInt8, cs = (toString n).toList
  | .rules _ _ => ∃ rs, rules cs rs

/-- A value for the field is the value that the field has in some record. -/
theorem Slot.Keeps.suits_iff {rules : List Char → List Rule → Prop} {slot : Slot α}
    (h : slot.Keeps) (b : α) {cs : List Char} :
    slot.Suits rules cs ↔ ∃ a, slot.Writes rules cs a := by
  cases slot with
  | text get set =>
    constructor
    · rintro ⟨s, hs⟩
      exact ⟨set s b, by rwa [Slot.Writes, h]⟩
    · rintro ⟨a, ha⟩
      exact ⟨get a, ha⟩
  | byte get set =>
    constructor
    · rintro ⟨n, hn⟩
      exact ⟨set n b, by rwa [Slot.Writes, h]⟩
    · rintro ⟨a, ha⟩
      exact ⟨get a, ha⟩
  | rules get set =>
    constructor
    · rintro ⟨rs, hrs⟩
      exact ⟨set rs b, by rwa [Slot.Writes, h]⟩
    · rintro ⟨a, ha⟩
      exact ⟨get a, ha⟩

namespace Json

/-! ### When members stand for a record -/

/-- Every name is a text, every field that is named has a value that suits it, and no field is named
twice. -/
structure Admissible (rules : List Char → List Rule → Prop) (layout : Layout α)
    (members : List Member) : Prop where
  named : ∀ m ∈ members, ∃ name, m.Names name
  suits : ∀ f ∈ layout, ∀ m ∈ members, m.Names f.name → f.slot.Suits rules m.item.value
  once : members.Pairwise fun m k => ∀ f ∈ layout, m.Names f.name → ¬ k.Names f.name

variable {rules : List Char → List Rule → Prop} {layout : Layout α} {members : List Member}

theorem Admissible.tail {m : Member} (h : Admissible rules layout (m :: members)) :
    Admissible rules layout members where
  named k hk := h.named k (List.mem_cons_of_mem m hk)
  suits f hf k hk := h.suits f hf k (List.mem_cons_of_mem m hk)
  once := (List.pairwise_cons.mp h.once).2

theorem Fits.admissible (hl : layout.Lawful) {a : α} (h : Fits rules layout members a) :
    Admissible rules layout members where
  named := h.named
  suits f hf m hm hnames := ((hl.keeps f hf).suits_iff a).mpr ⟨a, h.given f hf m hm hnames⟩
  once := h.once

/-- Admissible members make a record, if no field is required. -/
theorem Admissible.exists_continues (hl : layout.Lawful)
    (hoptional : ∀ f ∈ layout, f.isRequired = false) (state : List String × α)
    (hfresh : ∀ f ∈ layout, f.name ∈ state.1 → ∀ m ∈ members, ¬ m.Names f.name)
    (h : Admissible rules layout members) : ∃ a, Continues rules layout state members a := by
  induction members generalizing state with
  | nil =>
    refine ⟨state.2, (continues_end hl).mpr ⟨fun f hf hr => ?_, rfl⟩⟩
    rw [hoptional f hf] at hr
    cases hr
  | cons m members ih =>
    obtain ⟨seen, b⟩ := state
    obtain ⟨name, hm⟩ := h.named m List.mem_cons_self
    have hafter : ∀ f ∈ layout, f.name ∈ seen → ∀ k ∈ members, ¬ k.Names f.name :=
      fun f hf hseen k hk => hfresh f hf hseen k (List.mem_cons_of_mem m hk)
    by_cases hfield : name ∈ layout.names
    · obtain ⟨f, hf, rfl⟩ := List.mem_map.mp hfield
      obtain ⟨c, hc⟩ := ((hl.keeps f hf).suits_iff b).mp (h.suits f hf m List.mem_cons_self hm)
      have hagrees : f.slot.Agrees c (f.slot.copy c b) := ((hl.keeps f hf).agrees_copy c b).symm
      have hgives : Gives rules layout m (seen, b) (f.name :: seen, f.slot.copy c b) :=
        .field hf hm (fun hseen => hfresh f hf hseen m List.mem_cons_self hm)
          (hc.of_agrees hagrees) (hagrees.copy_eq b)
      have hnext : ∀ g ∈ layout, g.name ∈ f.name :: seen → ∀ k ∈ members, ¬ k.Names g.name := by
        intro g hg hseen k hk hnames
        rcases List.mem_cons.mp hseen with heq | hseen
        · exact (List.pairwise_cons.mp h.once).1 k hk f hf hm (heq ▸ hnames)
        · exact hafter g hg hseen k hk hnames
      obtain ⟨a, ha⟩ := ih (f.name :: seen, f.slot.copy c b) hnext h.tail
      exact ⟨a, hgives.continues hl ha⟩
    · obtain ⟨a, ha⟩ := ih (seen, b) hafter h.tail
      exact ⟨a, (Gives.ignored hm hfield).continues hl ha⟩

/-! ### Order and other members -/

/-- The name of the member is a text, but no field has it. -/
def Member.IsForeign (m : Member) (layout : Layout α) : Prop :=
  ∃ name, m.Names name ∧ name ∉ layout.names

theorem Member.IsForeign.not_names {m : Member} (h : m.IsForeign layout) {f : RecordField α}
    (hf : f ∈ layout) : ¬ m.Names f.name := by
  obtain ⟨name, hm, hname⟩ := h
  exact fun hnames => hname (hm.unique hnames ▸ List.mem_map_of_mem hf)

/-- The order of the members does not matter. -/
theorem Describes.of_perm {start a : α} {others : List Member} (hperm : members.Perm others)
    (h : Describes rules layout start members a) : Describes rules layout start others a where
  named m hm := h.named m (hperm.mem_iff.mpr hm)
  given f hf m hm := h.given f hf m (hperm.mem_iff.mpr hm)
  once := by
    refine (hperm.pairwise_iff fun {m k} hmk f hf hk hm => ?_).mp h.once
    exact hmk f hf hm hk
  missing f hf hnone := h.missing f hf fun m hm => hnone m (hperm.mem_iff.mp hm)

/-- Members with other names do not matter. -/
theorem describes_append_foreign {start a : α} {others : List Member}
    (hothers : ∀ m ∈ others, m.IsForeign layout) :
    Describes rules layout start (members ++ others) a ↔
      Describes rules layout start members a := by
  have hnone : ∀ m ∈ others, ∀ f ∈ layout, ¬ m.Names f.name :=
    fun m hm f hf => (hothers m hm).not_names hf
  constructor
  · intro h
    refine ⟨⟨fun m hm => h.named m (by simp [hm]), fun f hf m hm => h.given f hf m (by simp [hm]),
      (List.pairwise_append.mp h.once).1⟩, fun f hf hmissing => h.missing f hf fun m hm => ?_⟩
    rcases List.mem_append.mp hm with hm | hm
    · exact hmissing m hm
    · exact hnone m hm f hf
  · intro h
    refine ⟨⟨fun m hm => ?_, fun f hf m hm hnames => ?_, ?_⟩, fun f hf hmissing => ?_⟩
    · rcases List.mem_append.mp hm with hm | hm
      · exact h.named m hm
      · exact (hothers m hm).imp fun _ => And.left
    · rcases List.mem_append.mp hm with hm | hm
      · exact h.given f hf m hm hnames
      · exact absurd hnames (hnone m hm f hf)
    · refine List.pairwise_append.mpr ⟨h.once, ?_, fun m _ k hk f hf _ => hnone k hk f hf⟩
      exact List.pairwise_of_forall_mem_list fun m hm k _ f hf hnames =>
        absurd hnames (hnone m hm f hf)
    · exact h.missing f hf fun m hm => hmissing m (List.mem_append_left others hm)

/-! ### Whole texts -/

/-- What is read of an object is settled by its members. -/
structure Settled (rules : List Char → List Rule → Prop) (layout : Layout α) (start : α)
    (members : List Member) (result : Except Fault α) : Prop where
  /-- The members describe what is read. -/
  exact : ∀ a, result = .ok a ↔ Describes rules layout start members a
  /-- Neither order nor members with other names matter. -/
  free : ∀ known others, members.Perm (known ++ others) → (∀ m ∈ others, m.IsForeign layout) →
    ∀ a, result = .ok a ↔ Describes rules layout start known a
  /-- Admissible members are read. -/
  accepted : Admissible rules layout members → ∃ a, result = .ok a
  /-- All others are a fault. -/
  refused : ¬ Admissible rules layout members → ∃ fault, result = .error fault

/-- A value between white space is the value of the text. -/
theorem Decides.readText {reader : Reader α} {cs : List Char} {P : α → Prop}
    (h : Decides reader cs P) (before after : Gap) (a : α) :
    Json.readText reader (before.chars ++ (cs ++ after.chars)) = .ok a ↔ P a := by
  have hafter : Delimited after.chars := by
    rw [← List.append_nil after.chars]
    exact delimited_gap_append after.isGap delimited_nil
  have hdecides := h before.isGap hafter
  rw [Json.readText]
  constructor
  · intro hread
    split at hread
    · cases hread
    · rename_i b tail hone
      obtain ⟨rfl, hb⟩ := (hdecides b tail).mp hone
      split at hread
      · cases hread
        exact hb
      · cases hread
  · intro ha
    simp only [(hdecides a after.chars).mpr ⟨rfl, ha⟩, skipBlank_gap after.isGap]
    rfl

/-- What objects are read as is settled, if no field is required. -/
theorem settled_readText {readRules : Reader (List Rule)} (hl : layout.Lawful)
    (hrules : ∀ cs, IsValue cs → Decides readRules cs (rules cs))
    (hoptional : ∀ f ∈ layout, f.isRequired = false) (start : α) (before close after : Gap)
    (hmembers : ∀ m ∈ members, IsValue m.item.value) :
    Settled rules layout start members (readText (readRecord readRules layout start)
      (before.chars ++ (objectText close.closing (members.map Member.text) ++ after.chars))) := by
  have hexact := (decides_objectText hl hrules start close hmembers).readText before after
  refine ⟨hexact, fun known others hperm hothers a => ?_, fun h => ?_, fun h => ?_⟩
  · refine (hexact a).trans (Iff.trans ?_ (describes_append_foreign hothers))
    exact ⟨Describes.of_perm hperm, Describes.of_perm hperm.symm⟩
  · obtain ⟨a, ha⟩ := h.exists_continues hl hoptional ([], start) (by simp)
    exact ⟨a, (hexact a).mpr (continues_nil_iff.mp ha)⟩
  · cases hread : readText (readRecord readRules layout start)
        (before.chars ++ (objectText close.closing (members.map Member.text) ++ after.chars)) with
    | error fault => exact ⟨fault, rfl⟩
    | ok a => exact absurd (((hexact a).mp hread).toFits.admissible hl) h

/-- No characters are a list of rules. -/
def NoRules (_ : List Char) (_ : List Rule) : Prop := False

theorem decides_nothing (cs : List Char) : Decides readNothing cs (NoRules cs) :=
  decides_none (fun _ _ _ _ _ h => by cases h) fun _ h => h

/-- The characters are a rule. -/
def IsRule : List Char → Rule → Prop := IsRecord NoRules Rule.layout {}

theorem decides_rule (cs : List Char) (h : IsValue cs) : Decides readRule cs (IsRule cs) :=
  decides_record Rule.lawful_layout (fun cs _ => decides_nothing cs) {} h

/-- **Rules, rules as users write them and rule sets are read as their members say.** An object with
any well-formed members in it, however its names and texts are spelled and wherever white space
stands, is read as the record in which the named fields have the values that are written and the
others are empty. It is refused if a field is named twice, if a text is written as anything else, a
confidence as anything else than the digits of a number below `256`, or the rules as anything else
than a list of rules. The order of the members and those with other names do not matter. -/
theorem settled_texts (before close after : Gap) {members : List Member}
    (hmembers : ∀ m ∈ members, IsValue m.item.value) :
    let cs := before.chars ++ (objectText close.closing (members.map Member.text) ++ after.chars)
    Settled NoRules Rule.layout {} members (readText readRule cs) ∧
      Settled NoRules SimpleRule.layout {} members (readText readSimpleRule cs) ∧
      Settled (IsListOf IsRule) RuleSet.layout {} members (RuleSet.ofJsonText cs) := by
  have hnothing : ∀ cs, IsValue cs → Decides readNothing cs (NoRules cs) :=
    fun cs _ => decides_nothing cs
  refine ⟨?_, ?_, ?_⟩
  · exact settled_readText Rule.lawful_layout hnothing (by decide) {} before close after hmembers
  · exact settled_readText SimpleRule.lawful_layout hnothing (by decide) {} before close after
      hmembers
  · exact settled_readText RuleSet.lawful_layout (fun _ => decides_list decides_rule) (by decide) {}
      before close after hmembers

/-- A blank. -/
def Gap.blank : Gap := ⟨[' '], by simp [IsGap, isBlank]⟩

/-- A field of rules that is named twice. -/
def twofoldMembers : List Member :=
  have hos : IsBody ['o', 's'] := .plain (by decide) (.plain (by decide) .nil)
  [⟨.none, ['o', 's'], hos, .none, ⟨.none, ['"', 'a', '"'], .none⟩⟩,
    ⟨.blank, ['o', 's'], hos, .blank, ⟨.blank, ['"', 'b', '"'], .blank⟩⟩]

/-- A number that is too large to be kept, a string without a text, and an object with the members
above. -/
def oddItems : List Item := [
  ⟨.none, ['-', '1', '.', '5', 'E', '+', '9', '9', '9'], .none⟩,
  ⟨.blank, ['"', '\\', 'u', 'd', '8', '0', '0', '"'], .blank⟩,
  ⟨.none, objectText Gap.none.closing (twofoldMembers.map Member.text), .none⟩]

/-- A confidence at the end of its range, a name that is no field of a rule, and a service of which
both the name and the value are spelled with escapes. -/
def oddMembers : List Member :=
  have hconfidence : Spells "confidence".toList "confidence".toList := by decide
  have hservice : Spells "\\u0073ervice".toList "service".toList := by decide
  [⟨.blank, "confidence".toList, hconfidence.isBody, .blank, ⟨.none, ['2', '5', '5'], .blank⟩⟩,
    ⟨.none, ['x'], .plain (by decide) .nil, .none,
      ⟨.blank, listText Gap.blank.closing (oddItems.map Item.text), .none⟩⟩,
    ⟨.none, "\\u0073ervice".toList, hservice.isBody, .none,
      ⟨.none, '"' :: ("\\ud834\\udd1e".toList ++ ['"']), .none⟩⟩]

theorem isValue_twofoldMembers : ∀ m ∈ twofoldMembers, IsValue m.item.value := by
  have hletter : ∀ {c : Char}, IsPlain c → IsValue ['"', c, '"'] := fun hc => .text (.plain hc .nil)
  exact List.forall_mem_cons.mpr
    ⟨hletter (by decide), List.forall_mem_singleton.mpr (hletter (by decide))⟩

theorem isValue_oddItems : ∀ i ∈ oddItems, IsValue i.value := by
  have hnumber : IsNumber ['-', '1', '.', '5', 'E', '+', '9', '9', '9'] :=
    @IsNumber.parts ['-'] ['1'] ['.', '5'] ['E', '+', '9', '9', '9'] (.inr rfl)
      ⟨by simp, by simp, by simp⟩ (.point ⟨by simp, by simp⟩)
      (.power (.inr rfl) (.inr (.inl rfl)) ⟨by simp, by simp⟩)
  have hbody : IsBody ['\\', 'u', 'd', '8', '0', '0'] := .code (.digits rfl rfl rfl rfl) .nil
  refine List.forall_mem_cons.mpr ⟨.number hnumber, List.forall_mem_cons.mpr ⟨.text hbody, ?_⟩⟩
  exact List.forall_mem_singleton.mpr (.object .none isValue_twofoldMembers)

theorem isValue_oddMembers : ∀ m ∈ oddMembers, IsValue m.item.value := by
  have hnumber : IsNumber ['2', '5', '5'] :=
    @IsNumber.parts [] ['2', '5', '5'] [] [] (.inl rfl) ⟨by simp, by simp, by simp⟩ .absent .absent
  have hbody : Spells "\\ud834\\udd1e".toList "𝄞".toList := by decide +kernel
  refine List.forall_mem_cons.mpr ⟨.number hnumber, List.forall_mem_cons.mpr ⟨?_, ?_⟩⟩
  · exact .list .blank isValue_oddItems
  · exact List.forall_mem_singleton.mpr (.text hbody.isBody)

/-- A field that is named twice in an object that does not matter is passed over, but a rule that
names it twice is refused. -/
theorem settled_oddMembers :
    let text := fun members => Gap.blank.chars ++
      (objectText Gap.none.closing (members.map Member.text) ++ Gap.blank.chars)
    let rule : Rule := { service := "𝄞", confidence := 255 }
    (∀ m ∈ oddMembers, IsValue m.item.value) ∧ (∀ m ∈ twofoldMembers, IsValue m.item.value) ∧
      Describes NoRules Rule.layout {} oddMembers rule ∧
      readText readRule (text oddMembers) = .ok rule ∧
      ∃ fault, readText readRule (text twofoldMembers) = .error fault := by
  intro text rule
  have hodd := (settled_texts .blank .none .blank isValue_oddMembers).1
  have htwofold := (settled_texts .blank .none .blank isValue_twofoldMembers).1
  have hread : readText readRule (text oddMembers) = .ok rule := by decide +kernel
  refine ⟨isValue_oddMembers, isValue_twofoldMembers, (hodd.exact rule).mp hread, hread, ?_⟩
  refine htwofold.refused fun h => ?_
  have hos : ∀ m ∈ twofoldMembers, m.Names "os" := by
    have hspells : Spells ['o', 's'] "os".toList := by decide
    exact List.forall_mem_cons.mpr ⟨hspells, List.forall_mem_singleton.mpr hspells⟩
  have hfield : Rule.layout[7] ∈ Rule.layout := List.getElem_mem _
  exact (List.pairwise_cons.mp h.once).1 _ (List.mem_singleton_self _) _ hfield
    (hos _ List.mem_cons_self) (hos _ (List.mem_cons_of_mem _ (List.mem_singleton_self _)))

end Json

end BannerMatch
