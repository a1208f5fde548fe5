import BannerMatch.Proofs.Json.Members

/-!
# Records are read as what their members stand for

An object is read as the record that its members describe, and refused if they describe none
(`decides_objectText`). The loop over the members follows `Continues`: what it has seen and read so
far is the state there, and one round is one `Gives`. A list is read as the values of the fields in
order (`decides_fieldsText`), and nothing else is a record (`decides_record`).
-/

namespace BannerMatch.Json

variable {α β : Type} {rules : List Char → List Rule → Prop} {readRules : Reader (List Rule)}
  {layout : Layout α}

/-! ### One member -/

/-- Something is made of what is read. -/
theorem Decides.map {reader : Reader α} {cs : List Char} {P : α → Prop} (h : Decides reader cs P)
    (f : α → β) :
    Decides (fun cs => (reader cs).map fun p => (f p.1, p.2)) cs fun b => ∃ a, P a ∧ b = f a := by
  intro gap rest hgap hrest b tail
  constructor
  · intro hread
    obtain ⟨p, hone, heq⟩ := map_eq_ok_iff.mp hread
    cases heq
    obtain ⟨htail, ha⟩ := (h hgap hrest p.1 p.2).mp hone
    exact ⟨htail, p.1, ha, rfl⟩
  · rintro ⟨rfl, a, ha, rfl⟩
    simp only [(h hgap hrest a tail).mpr ⟨rfl, ha⟩]
    rfl

theorem Decides.of_iff {reader : Reader α} {cs : List Char} {P Q : α → Prop}
    (h : Decides reader cs P) (hPQ : ∀ a, P a ↔ Q a) : Decides reader cs Q := by
  intro gap rest hgap hrest a tail
  rw [h hgap hrest a tail, hPQ a]

/-- A field is read as what is written for it. -/
theorem decides_slot (hrules : ∀ cs, IsValue cs → Decides readRules cs (rules cs)) {slot : Slot α}
    (hkeeps : slot.Keeps) (b : α) {cs : List Char} (h : IsValue cs) :
    Decides (readSlot readRules slot b) cs fun c => slot.Writes rules cs c ∧ c = slot.copy c b := by
  -- the value that is put into the field is the one that the field has then
  have hput : ∀ {γ : Type} {P : γ → Prop} {get : α → γ} {set : γ → α → α},
      (∀ v a, get (set v a) = v) →
        ∀ c, (∃ v, P v ∧ c = set v b) ↔ P (get c) ∧ c = set (get c) b := by
    intro γ P get set hget c
    constructor
    · rintro ⟨v, hv, rfl⟩
      rw [hget]
      exact ⟨hv, rfl⟩
    · rintro ⟨hc, heq⟩
      exact ⟨get c, hc, heq⟩
  cases slot with
  | text get set => exact ((decides_text h).map fun v => set v b).of_iff (hput hkeeps)
  | byte get set => exact ((decides_byte h).map fun v => set v b).of_iff (hput hkeeps)
  | rules get set => exact ((hrules cs h).map fun v => set v b).of_iff (hput hkeeps)

/-- The value of a member is passed over. -/
theorem Item.skipValue {i : Item} (hi : IsValue i.value) (parts : List (List Char)) (close : Gap)
    {c : Char} (hc : Delimited [c]) (rest : List Char) :
    Json.skipValue (i.text ++ partsText false parts close c rest) =
      .ok (i.after.chars ++ partsText false parts close c rest) := by
  rw [Item.text, List.append_assoc, List.append_assoc]
  exact skipValue_value hi i.before.isGap (i.after.delimited_parts parts close hc rest)

/-- **One round of the loop** over the members is what one member gives. -/
theorem readMember_iff (hl : layout.Lawful)
    (hrules : ∀ cs, IsValue cs → Decides readRules cs (rules cs)) {m : Member}
    (hm : IsValue m.item.value) (seen : List String) (b : α) (parts : List (List Char))
    (close : Gap) (rest : List Char) (next : List String × α) (tail : List Char) :
    readMember readRules layout seen b (m.label ++ '"' :: (m.colon.chars ++ ':' ::
        (m.item.text ++ partsText false parts close '\x7d' rest))) = .ok (next, tail) ↔
      tail = m.item.after.chars ++ partsText false parts close '\x7d' rest ∧
        Gives rules layout m (seen, b) next := by
  have hbrace : Delimited ['\x7d'] := by simp [Delimited]
  have hskip := Item.skipValue hm parts close hbrace rest
  -- the reader of a field stands in front of the white space before the value
  have hslot : ∀ f ∈ layout, ∀ c left,
      readSlot readRules f.slot b (m.item.text ++ partsText false parts close '\x7d' rest) =
          .ok (c, left) ↔
        left = m.item.after.chars ++ partsText false parts close '\x7d' rest ∧
          f.slot.Writes rules m.item.value c ∧ c = f.slot.copy c b := by
    intro f hf c left
    rw [Item.text, List.append_assoc, List.append_assoc]
    exact decides_slot hrules (hl.keeps f hf) b hm m.item.before.isGap
      (m.item.after.delimited_parts parts close hbrace rest) c left
  constructor
  · intro h
    rw [readMember] at h
    split at h
    · cases h
    rename_i name left hname
    obtain ⟨rfl, hspells⟩ := (readString_body m.isBody _).mp hname
    have hnames : m.Names (String.ofList name) := by
      rw [Member.Names, String.toList_ofList]
      exact hspells
    simp only [m.colon.readColon, Except.bind, hskip] at h
    split at h
    · rename_i hnone
      cases h
      exact ⟨rfl, .ignored hnames (Layout.field?_eq_none_iff.mp hnone)⟩
    · rename_i f hsome
      obtain ⟨hf, heq⟩ := hl.field?_eq_some_iff.mp hsome
      split at h
      · cases h
      rename_i hfresh
      obtain ⟨p, hread, hnext⟩ := map_eq_ok_iff.mp h
      cases hnext
      obtain ⟨htail, hwrites, hcopy⟩ := (hslot f hf p.1 p.2).mp hread
      exact ⟨htail, .field hf (heq ▸ hnames) (by simpa using hfresh) hwrites hcopy⟩
  · rintro ⟨rfl, hgives⟩
    cases hgives with
    | @ignored name state hnames hname =>
      rw [readMember, (readString_body m.isBody _).mpr ⟨rfl, hnames⟩]
      simp only [String.ofList_toList, Layout.field?_eq_none_iff.mpr hname, m.colon.readColon,
        Except.bind, hskip]
      rfl
    | @field f seen b c hf hnames hfresh hwrites hcopy =>
      rw [readMember, (readString_body m.isBody _).mpr ⟨rfl, hnames⟩]
      simp only [String.ofList_toList, hl.field?_eq_some_iff.mpr ⟨hf, rfl⟩, m.colon.readColon,
        Except.bind, (hslot f hf c _).mpr ⟨rfl, hwrites, hcopy⟩]
      rw [if_neg (by simpa using hfresh)]
      rfl

/-! ### Objects -/

/-- White space in front of the next member does not matter. -/
theorem nextMember_gap_append (first : Bool) {gap : List Char} (hgap : IsGap gap)
    (cs : List Char) : nextMember first (gap ++ cs) = nextMember first cs := by
  rw [nextMember, nextMember, skipBlank_gap_append hgap]

theorem nextMember_parts_nil (first : Bool) (close : Gap) (rest : List Char) :
    nextMember first (partsText first [] close '\x7d' rest) = .ok none := by
  rw [nextMember, skipBlank_parts_nil first close (by decide)]
  rfl

theorem nextMember_parts_cons (first : Bool) (m : Member) (parts : List (List Char)) (close : Gap)
    (rest : List Char) :
    nextMember first (partsText first (m.text :: parts) close '\x7d' rest) =
      .ok (some (m.label ++ '"' :: (m.colon.chars ++ ':' ::
        (m.item.text ++ partsText false parts close '\x7d' rest)))) := by
  rw [partsText_cons, Member.text_append]
  exact nextMember_quote first m.before.isGap _

/-- **The loop over the members** of an object, with its end. -/
theorem readMembers_parts (hl : layout.Lawful)
    (hrules : ∀ cs, IsValue cs → Decides readRules cs (rules cs)) {members : List Member}
    (hmembers : ∀ m ∈ members, IsValue m.item.value) (seen : List String) (b : α) (first : Bool)
    (before close : Gap) {fuel : ℕ} (hfuel : members.length < fuel) (rest : List Char) (a : α)
    (tail : List Char) :
    readMembers readRules layout fuel seen first b
        (before.chars ++ partsText first (members.map Member.text) close '\x7d' rest) =
          .ok (a, tail) ↔
      tail = rest ∧ Continues rules layout (seen, b) members a := by
  induction members generalizing seen b first before fuel with
  | nil =>
    obtain ⟨fuel, rfl⟩ := Nat.exists_eq_succ_of_ne_zero (by omega : fuel ≠ 0)
    rw [readMembers, nextMember_gap_append first before.isGap, List.map_nil, nextMember_parts_nil,
      skipBlank_gap_append before.isGap, skipBlank_parts_nil first close (by decide),
      continues_end hl]
    simp only [List.tail_cons]
    by_cases hrequired : ∀ f ∈ layout, f.isRequired = true → f.name ∈ seen
    · have hany : (layout.any fun f => f.isRequired && !seen.contains f.name) = false := by
        simpa using hrequired
      rw [if_neg (by rw [hany]; exact Bool.false_ne_true)]
      constructor
      · intro h
        cases h
        exact ⟨rfl, hrequired, rfl⟩
      · rintro ⟨rfl, -, rfl⟩
        rfl
    · have hany : (layout.any fun f => f.isRequired && !seen.contains f.name) = true := by
        simpa using hrequired
      rw [if_pos hany]
      constructor
      · intro h
        cases h
      · exact fun h => absurd h.2.1 hrequired
  | cons m members ih =>
    obtain ⟨hm, hmembers⟩ := List.forall_mem_cons.mp hmembers
    obtain ⟨fuel, rfl⟩ := Nat.exists_eq_succ_of_ne_zero (by omega : fuel ≠ 0)
    have hone := readMember_iff hl hrules hm seen b (members.map Member.text) close rest
    have hrun := fun seen b => ih hmembers seen b false m.item.after (Nat.lt_of_succ_lt_succ hfuel)
    rw [readMembers, nextMember_gap_append first before.isGap, List.map_cons, nextMember_parts_cons,
      continues_cons hl]
    simp only
    constructor
    · intro h
      split at h
      · cases h
      · rename_i next c left hread
        obtain ⟨rfl, hgives⟩ := (hone _ _).mp hread
        obtain ⟨htail, hcontinues⟩ := (hrun next c).mp h
        exact ⟨htail, _, hgives, hcontinues⟩
    · rintro ⟨htail, next, hgives, hcontinues⟩
      rw [(hone _ _).mpr ⟨rfl, hgives⟩]
      exact (hrun next.1 next.2).mpr ⟨htail, hcontinues⟩

/-- **An object is read as the record that its members describe.** -/
theorem decides_objectText (hl : layout.Lawful)
    (hrules : ∀ cs, IsValue cs → Decides readRules cs (rules cs)) (start : α) (close : Gap)
    {members : List Member} (hmembers : ∀ m ∈ members, IsValue m.item.value) :
    Decides (readRecord readRules layout start)
      (objectText close.closing (members.map Member.text))
      (Describes rules layout start members) := by
  intro gap rest hgap hrest a tail
  have hfuel := length_lt_parts (members.map Member.text) close '\x7d' rest
  rw [List.length_map] at hfuel
  rw [objectText_append, readRecord, skipBlank_sign hgap (by decide), ← continues_nil_iff]
  exact readMembers_parts hl hrules hmembers [] start true .none close hfuel rest a tail

/-! ### Lists of values -/

/-- A list with items does not end. -/
theorem readListEnd_parts_cons (first : Bool) {i : Item} (hi : StartsValue i.value)
    (parts : List (List Char)) (before close : Gap) (rest left : List Char) :
    readListEnd (before.chars ++ partsText first (i.text :: parts) close ']' rest) ≠ .ok left := by
  have hnext := nextItem_parts_cons first hi parts close rest
  rw [readListEnd, skipBlank_gap_append before.isGap]
  rw [nextItem] at hnext
  intro h
  split at h
  · -- where a list ends there is no next item
    rename_i heq
    rw [heq] at hnext
    cases hnext
  · cases h

/-- The loop over the fields of a record that is a list, after the fields `done`. -/
theorem readFields_parts (hl : layout.Lawful)
    (hrules : ∀ cs, IsValue cs → Decides readRules cs (rules cs)) {done fields : Layout α}
    (hlayout : layout = done ++ fields) {items : List Item} (hitems : ∀ i ∈ items, IsValue i.value)
    (b : α) (first : Bool) (before close : Gap) (rest : List Char) (a : α) (tail : List Char) :
    readFields readRules first b fields
        (before.chars ++ partsText first (items.map Item.text) close ']' rest) = .ok (a, tail) ↔
      tail = rest ∧ (∀ f ∈ done, f.slot.Agrees a b) ∧ InOrder rules b a fields items := by
  have hbracket : Delimited [']'] := by simp [Delimited]
  induction fields generalizing done items b first before with
  | nil =>
    rw [List.append_nil] at hlayout
    rw [readFields]
    cases items with
    | nil =>
      rw [List.map_nil, readListEnd_parts]
      constructor
      · intro h
        cases h
        exact ⟨rfl, fun f _ => by cases f.slot <;> rfl, rfl⟩
      · rintro ⟨rfl, hagrees, -⟩
        rw [hl.ext a b (hlayout ▸ hagrees)]
        rfl
    | cons i items =>
      have hi := (hitems i List.mem_cons_self).startsValue
      have hend := readListEnd_parts_cons first hi (items.map Item.text) before close rest
      rw [List.map_cons]
      constructor
      · intro h
        obtain ⟨left, hleft, -⟩ := map_eq_ok_iff.mp h
        exact absurd hleft (hend left)
      · rintro ⟨-, -, hnone⟩
        cases hnone
  | cons f fields ih =>
    have hf : f ∈ layout := by simp [hlayout]
    have hnext : layout = (done ++ [f]) ++ fields := by simp [hlayout]
    rw [readFields, nextItem_gap_append first before.isGap]
    cases items with
    | nil =>
      have hnil : ∀ i ∈ ([] : List Item), IsValue i.value := by simp
      have hrest := ih hnext hnil b first before
      rw [List.map_nil] at hrest ⊢
      rw [nextItem_parts_nil]
      simp only [InOrder]
      by_cases hr : f.isRequired = true
      · rw [if_pos hr]
        constructor
        · intro h
          cases h
        · rintro ⟨-, -, hnot, -⟩
          rw [hnot] at hr
          cases hr
      · rw [if_neg hr]
        refine hrest.trans ?_
        simp only [List.forall_mem_append, List.forall_mem_singleton, Bool.not_eq_true] at hr ⊢
        tauto
    | cons i items =>
      obtain ⟨hi, hitems⟩ := List.forall_mem_cons.mp hitems
      have hone := (decides_slot hrules (hl.keeps f hf) b hi).item (items.map Item.text) close
        hbracket rest
      have hrun := fun c => ih hnext hitems c false i.after
      -- the other fields are left alone
      have hothers : ∀ g ∈ done ++ fields, ∀ c, c = f.slot.copy c b → g.slot.Agrees c b := by
        intro g hg c hcopy
        rw [hcopy]
        exact hl.frame_others hlayout hg c b
      rw [List.map_cons, nextItem_parts_cons first hi.startsValue]
      simp only [InOrder]
      constructor
      · intro h
        split at h
        · cases h
        · rename_i c left hread
          obtain ⟨rfl, hwrites, hcopy⟩ := (hone c left).mp hread
          obtain ⟨htail, hdone, horder⟩ := (hrun c).mp h
          obtain ⟨hdone, hac⟩ := List.forall_mem_append.mp hdone
          refine ⟨htail, fun g hg => (hdone g hg).trans (hothers g (by simp [hg]) c hcopy), ?_,
            horder.of_agrees fun g hg => hothers g (by simp [hg]) c hcopy⟩
          exact hwrites.of_agrees (hac f (by simp)).symm
      · rintro ⟨htail, hdone, hwrites, horder⟩
        have hagrees : f.slot.Agrees a (f.slot.copy a b) := ((hl.keeps f hf).agrees_copy a b).symm
        have hcopy := hagrees.copy_eq b
        rw [(hone (f.slot.copy a b) _).mpr ⟨rfl, hwrites.of_agrees hagrees, hcopy⟩]
        refine (hrun _).mpr ⟨htail, ?_, ?_⟩
        · refine List.forall_mem_append.mpr ⟨fun g hg => ?_, by simpa using hagrees⟩
          exact (hdone g hg).trans (hothers g (by simp [hg]) _ hcopy).symm
        · exact horder.of_agrees fun g hg => (hothers g (by simp [hg]) _ hcopy).symm

/-- **A list is read as the record with its values in order.** -/
theorem decides_fieldsText (hl : layout.Lawful)
    (hrules : ∀ cs, IsValue cs → Decides readRules cs (rules cs)) (start : α) (close : Gap)
    {items : List Item} (hitems : ∀ i ∈ items, IsValue i.value) :
    Decides (readRecord readRules layout start) (listText close.closing (items.map Item.text))
      fun a => InOrder rules start a layout items := by
  intro gap rest hgap hrest a tail
  have hread := readFields_parts hl hrules (List.nil_append layout).symm hitems start true .none
    close rest a tail
  rw [listText_append, readRecord, skipBlank_sign hgap (by decide)]
  exact hread.trans (by simp)

/-! ### Records -/

/-- **Records are read exactly as what they are**, objects and lists; other values are refused. -/
theorem decides_record (hl : layout.Lawful)
    (hrules : ∀ cs, IsValue cs → Decides readRules cs (rules cs)) (start : α) {cs : List Char}
    (h : IsValue cs) :
    Decides (readRecord readRules layout start) cs (IsRecord rules layout start cs) := by
  obtain ⟨c, cs, rfl, hblank, -⟩ := h.startsValue
  -- in whatever way the characters are put together, they are read alike
  have hback : ∀ ⦃gap rest : List Char⦄, IsGap gap → Delimited rest → ∀ a tail,
      tail = rest ∧ IsRecord rules layout start (c :: cs) a →
        readRecord readRules layout start (gap ++ (c :: cs ++ rest)) = .ok (a, tail) := by
    rintro gap rest hgap hrest a tail ⟨htail, ⟨close, members, hmembers, heq, hdescribes⟩ |
      ⟨close, items, hitems, heq, horder⟩⟩
    · rw [heq]
      exact (decides_objectText hl hrules start close hmembers hgap hrest a tail).mpr
        ⟨htail, hdescribes⟩
    · rw [heq]
      exact (decides_fieldsText hl hrules start close hitems hgap hrest a tail).mpr ⟨htail, horder⟩
  intro gap rest hgap hrest a tail
  refine ⟨fun hread => ?_, hback hgap hrest a tail⟩
  by_cases hlist : c = '['
  · obtain ⟨close, items, hitems, heq⟩ := h.of_head.2.2.1 hlist
    rw [heq] at hread
    obtain ⟨htail, horder⟩ :=
      (decides_fieldsText hl hrules start close hitems hgap hrest a tail).mp hread
    exact ⟨htail, .inr ⟨close, items, hitems, heq, horder⟩⟩
  by_cases hobject : c = '\x7b'
  · obtain ⟨close, members, hmembers, heq⟩ := h.of_head.2.2.2 hobject
    rw [heq] at hread
    obtain ⟨htail, hdescribes⟩ :=
      (decides_objectText hl hrules start close hmembers hgap hrest a tail).mp hread
    exact ⟨htail, .inl ⟨close, members, hmembers, heq, hdescribes⟩⟩
  · rw [List.cons_append, readRecord, skipBlank_sign hgap hblank] at hread
    split at hread
    · rename_i heq
      exact absurd (List.cons.inj heq).1 hlist
    · rename_i heq
      exact absurd (List.cons.inj heq).1 hobject
    · cases hread

end BannerMatch.Json
