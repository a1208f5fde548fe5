import BannerMatch.Proofs.Json.PartialRecords

/-!
# Services survive JSON

A service is written without the fields that are empty, and read with the fields that are not given
empty. `describes_written` says of any record that its written members describe it if the fields
that are left out are those of the record to start with; so a service is read back whatever fields
it lacks (`Service.jsonText_survives`).
-/

namespace BannerMatch

open Json

variable {α : Type}

namespace Json

variable {rule : Rule → Value} {layout : Layout α}

/-- The member that is written for a field. -/
def fieldMember (rule : Rule → Value) (a : α) (f : RecordField α) : Member where
  before := .none
  label := f.name.toList.flatMap escapeChar
  isBody := (spells_flatMap_escapeChar _).isBody
  colon := .none
  item := ⟨.none, (Slot.value rule f.slot a).compact, .none⟩

theorem fieldMember_text (a : α) (f : RecordField α) :
    (fieldMember rule a f).text =
      memberText .none f.name (Slot.value rule f.slot a).compact := by
  simp [Member.text, Item.text, fieldMember, memberText, quote, Gap.none, Gaps.none]

theorem fieldMember_names (a : α) (f : RecordField α) {name : String} :
    (fieldMember rule a f).Names name ↔ f.name = name := by
  have hself : (fieldMember rule a f).Names f.name := spells_flatMap_escapeChar _
  constructor
  · exact fun h => hself.unique h
  · rintro rfl
    exact hself

/-- The fields that are written of a record. -/
def writtenFields (layout : Layout α) (a : α) : Layout α := layout.filter fun f => !f.isOmitted a

/-- A record is written as the object of its members. -/
theorem compact_recordValue (a : α) :
    (recordValue rule layout a).compact = objectText Gap.none.closing
      (((writtenFields layout a).map (fieldMember rule a)).map Member.text) := by
  have htext : Member.text ∘ fieldMember rule a = fun f : RecordField α =>
      memberText .none f.name (Slot.value rule f.slot a).compact :=
    funext fun f => fieldMember_text a f
  rw [recordValue, compact_object, List.map_map, List.map_map, htext]
  rfl

/-- What is written for a field, if it holds no rules, is its value. -/
theorem writes_value {slot : Slot α} (hslot : ∀ get set, slot ≠ .rules get set) (a : α) :
    IsValue (Slot.value rule slot a).compact ∧
      slot.Writes NoRules (Slot.value rule slot a).compact a := by
  cases slot with
  | text get set =>
    have hspells := spells_flatMap_escapeChar (get a).toList
    exact ⟨.text hspells.isBody, _, rfl, hspells⟩
  | byte get set =>
    refine ⟨.number ?_, rfl⟩
    have hnumber := IsNumber.parts (.inl rfl) (isNumeral_byte (get a)) .absent .absent
    simpa [Slot.value, Value.compact] using hnumber
  | rules get set => exact absurd rfl (hslot get set)

/-- What is written for the fields of a record, if none of them holds rules, are values. -/
theorem isValue_written (rule : Rule → Value)
    (hslots : ∀ f ∈ layout, ∀ get set, f.slot ≠ .rules get set) (a : α) :
    ∀ m ∈ (writtenFields layout a).map (fieldMember rule a), IsValue m.item.value := by
  intro m hm
  obtain ⟨f, hf, rfl⟩ := List.mem_map.mp hm
  exact (writes_value (hslots f (List.mem_filter.mp hf).1) a).1

/-- **The members that are written for a record describe it**, if the fields that are left out may
be missing and are those of the record to start with. -/
theorem describes_written (hl : layout.Lawful)
    (hslots : ∀ f ∈ layout, ∀ get set, f.slot ≠ .rules get set) {start a : α}
    (homitted : ∀ f ∈ layout, f.isOmitted a = true →
      f.isRequired = false ∧ f.slot.Agrees a start) :
    Describes NoRules layout start ((writtenFields layout a).map (fieldMember rule a)) a where
  named m hm := by
    obtain ⟨f, -, rfl⟩ := List.mem_map.mp hm
    exact ⟨f.name, (fieldMember_names a f).mpr rfl⟩
  given f hf m hm hnames := by
    obtain ⟨g, hg, rfl⟩ := List.mem_map.mp hm
    have hg : g ∈ layout := (List.mem_filter.mp hg).1
    obtain rfl := hl.eq_of_name hg hf ((fieldMember_names a g).mp hnames)
    exact (writes_value (hslots g hg) a).2
  once := by
    have hnodup : ((writtenFields layout a).map RecordField.name).Nodup :=
      hl.nodup.sublist (List.filter_sublist.map _)
    refine List.pairwise_map.mpr ((List.pairwise_map.mp hnodup).imp fun {g h} hne f _ hg hh => ?_)
    exact hne (((fieldMember_names a g).mp hg).trans ((fieldMember_names a h).mp hh).symm)
  missing f hf hnone := by
    refine homitted f hf ?_
    by_contra hwritten
    refine hnone (fieldMember rule a f) (List.mem_map_of_mem ?_) ((fieldMember_names a f).mpr rfl)
    exact List.mem_filter.mpr ⟨hf, by simpa using hwritten⟩

/-! ### The members of a text -/

/-- The text is an object with a member of this name. -/
def HasMember (cs : List Char) (name : String) : Prop :=
  ∃ close : Gap, ∃ members : List Member, (∀ m ∈ members, IsValue m.item.value) ∧
    cs = objectText close.closing (members.map Member.text) ∧ ∃ m ∈ members, m.Names name

/-- Values that start two equal texts are equal, if what follows them delimits them. -/
theorem IsValue.append_inj {v w rest tail : List Char} (hv : IsValue v) (hw : IsValue w)
    (hrest : Delimited rest) (htail : Delimited tail) (h : v ++ rest = w ++ tail) :
    v = w ∧ rest = tail := by
  have hskip := skipValue_value hv isGap_nil hrest
  have hother := skipValue_value hw isGap_nil htail
  rw [List.nil_append] at hskip hother
  rw [h, hother] at hskip
  cases hskip
  exact ⟨List.append_cancel_right h, rfl⟩

/-- An object is put together from members with the same names in one way only. -/
theorem labels_unique {members others : List Member}
    (hmembers : ∀ m ∈ members, IsValue m.item.value) (hothers : ∀ m ∈ others, IsValue m.item.value)
    (first : Bool) (before gap close last : Gap)
    (h : before.chars ++ partsText first (members.map Member.text) close '\x7d' [] =
      gap.chars ++ partsText first (others.map Member.text) last '\x7d' []) :
    members.map Member.label = others.map Member.label := by
  have hbrace : Delimited ['\x7d'] := by simp [Delimited]
  induction members generalizing others first before gap with
  | nil =>
    have hnext := congrArg (nextMember first) h
    rw [nextMember_gap_append first before.isGap, nextMember_gap_append first gap.isGap,
      List.map_nil, nextMember_parts_nil] at hnext
    cases others with
    | nil => rfl
    | cons m others =>
      rw [List.map_cons, nextMember_parts_cons] at hnext
      cases hnext
  | cons m members ih =>
    have hnext := congrArg (nextMember first) h
    rw [nextMember_gap_append first before.isGap, nextMember_gap_append first gap.isGap,
      List.map_cons, nextMember_parts_cons] at hnext
    cases others with
    | nil =>
      rw [List.map_nil, nextMember_parts_nil] at hnext
      cases hnext
    | cons k others =>
      obtain ⟨hm, hmembers⟩ := List.forall_mem_cons.mp hmembers
      obtain ⟨hk, hothers⟩ := List.forall_mem_cons.mp hothers
      rw [List.map_cons, nextMember_parts_cons] at hnext
      obtain ⟨hlabel, hafter⟩ := m.isBody.append_quote_inj k.isBody
        (Option.some.inj (Except.ok.inj hnext))
      have hitem := congrArg readColon hafter
      rw [m.colon.readColon, k.colon.readColon] at hitem
      have hvalue := congrArg skipBlank (Except.ok.inj hitem)
      rw [Item.skipBlank_text hm.startsValue, Item.skipBlank_text hk.startsValue] at hvalue
      obtain ⟨-, htail⟩ := hm.append_inj hk (m.item.after.delimited_parts _ close hbrace [])
        (k.item.after.delimited_parts _ last hbrace []) hvalue
      rw [List.map_cons, List.map_cons, hlabel, ih hmembers hothers false _ _ htail]

/-- The names in what is written of a record are those of the fields that are not left out. -/
theorem hasMember_recordValue_iff (hslots : ∀ f ∈ layout, ∀ get set, f.slot ≠ .rules get set)
    (a : α) (name : String) :
    HasMember (recordValue rule layout a).compact name ↔
      ∃ f ∈ layout, f.isOmitted a = false ∧ f.name = name := by
  constructor
  · rintro ⟨close, members, hmembers, htext, m, hm, hnames⟩
    rw [compact_recordValue] at htext
    have hparts := congrArg (· ++ []) htext
    simp only [objectText_append] at hparts
    have hlabels := labels_unique (isValue_written rule hslots a) hmembers true .none .none .none
      close (List.cons.inj hparts).2
    -- the member has the name of one that is written
    have hlabel : m.label ∈ members.map Member.label := List.mem_map_of_mem hm
    rw [← hlabels, List.map_map] at hlabel
    obtain ⟨f, hf, heq⟩ := List.mem_map.mp hlabel
    obtain ⟨hmem, hwritten⟩ := List.mem_filter.mp hf
    have hfield : (fieldMember rule a f).Names name := by
      rw [Member.Names, ← heq] at hnames
      exact hnames
    exact ⟨f, hmem, by simpa using hwritten, (fieldMember_names a f).mp hfield⟩
  · rintro ⟨f, hf, hwritten, rfl⟩
    have hmem : f ∈ writtenFields layout a := List.mem_filter.mpr ⟨hf, by simp [hwritten]⟩
    exact ⟨.none, _, isValue_written rule hslots a, compact_recordValue a, fieldMember rule a f,
      List.mem_map_of_mem hmem, (fieldMember_names a f).mpr rfl⟩

end Json

/-- No field of a service holds rules. -/
theorem Service.slot_ne_rules : ∀ f ∈ Service.layout, ∀ get set, f.slot ≠ .rules get set := by
  simp [Service.layout]

/-- A field of a service that is left out is not required, and it is empty. -/
theorem Service.omitted (s : Service) : ∀ f ∈ Service.layout, f.isOmitted s = true →
    f.isRequired = false ∧ f.slot.Agrees s .blank := by
  simp [Service.layout, RecordField.isOmitted, Slot.Agrees, Service.blank]

/-- A service is read back from its text. -/
theorem Service.ofJsonText_eq (s : Service) : Service.ofJsonText s.jsonText = .ok s := by
  have hread := (decides_objectText Service.lawful_layout (fun cs _ => decides_nothing cs) .blank
    .none (isValue_written (fun _ => .null) Service.slot_ne_rules s)).readText .none .none s
  have htext : s.jsonText = Gap.none.chars ++ (objectText Gap.none.closing
      (((writtenFields Service.layout s).map (fieldMember (fun _ => .null) s)).map Member.text) ++
        Gap.none.chars) := by
    rw [Service.jsonText, Service.toJson, compact_recordValue]
    simp [Gap.none]
  rw [htext]
  exact hread.mpr (describes_written Service.lawful_layout Service.slot_ne_rules s.omitted)

/-- **Services survive JSON.** A service is read back from its text, whatever its texts hold and
whichever of its fields are empty. Of the fields that may be empty, the text has those that are not.
So different services have different texts. -/
theorem Service.jsonText_survives (s : Service) :
    Service.ofJsonText s.jsonText = .ok s ∧
    ((HasMember s.jsonText "version" ↔ s.version ≠ "") ∧
      (HasMember s.jsonText "info" ↔ s.info ≠ "") ∧
      (HasMember s.jsonText "hostname" ↔ s.hostname ≠ "") ∧
      (HasMember s.jsonText "os" ↔ s.os ≠ "") ∧
      (HasMember s.jsonText "device_type" ↔ s.deviceType ≠ "") ∧
      (HasMember s.jsonText "cpe" ↔ s.cpe ≠ "")) ∧
    ∀ t : Service, s.jsonText = t.jsonText → s = t := by
  refine ⟨s.ofJsonText_eq, ?_, fun t htext => ?_⟩
  · have hnames : ∀ name, HasMember s.jsonText name ↔
        ∃ f ∈ Service.layout, f.isOmitted s = false ∧ f.name = name :=
      hasMember_recordValue_iff Service.slot_ne_rules s
    simp only [hnames]
    simp [Service.layout, RecordField.isOmitted]
  · have hs := s.ofJsonText_eq
    rw [htext, t.ofJsonText_eq] at hs
    exact (Except.ok.inj hs).symm

end BannerMatch
