import BannerMatch.Proofs.MessagePack.Heads
import BannerMatch.Proofs.Record.Layouts

/-!
# Reading written records back

What is written for texts, numbers, lists and records is read back, whatever follows it, as long as
texts and lists are shorter than `2 ^ 32`: `Rule.Fits` and `RuleSet.Fits`. So rule sets survive
MessagePack: `RuleSet.ofMessagePack?_messagePack`.
-/

namespace BannerMatch.MessagePack

variable {α : Type}

/-- The bytes are read as the value, whatever follows them. -/
def ReadsBack (reader : Reader α) (bs : List UInt8) (a : α) : Prop :=
  ∀ rest, reader (bs ++ rest) = some (a, rest)

/-- A value is still read back when something is made of it. -/
theorem ReadsBack.map {β : Type} {reader : Reader α} {bs : List UInt8} {a : α}
    (h : ReadsBack reader bs a) (f : α → β) :
    ReadsBack (fun bs => (reader bs).map fun p => (f p.1, p.2)) bs (f a) := by
  intro rest
  show (reader (bs ++ rest)).map _ = _
  rw [h rest, Option.map_some]

/-- The length of a text fits into its head. -/
def FitsText (s : String) : Prop := (Text.encode s.toList).length < 2 ^ 32

instance (s : String) : Decidable (FitsText s) :=
  inferInstanceAs (Decidable ((Text.encode s.toList).length < 2 ^ 32))

/-! ### Values -/

theorem readsBack_text {s : String} (hs : FitsText s) :
    ReadsBack readTextValue (writeText s) s := by
  intro rest
  rw [readTextValue, writeText, List.append_assoc, readHead_textHead hs]
  simp only [takeBytes_append]
  simp [Text.decode?_encode]

theorem readsBack_byte (n : UInt8) : ReadsBack readByteValue (writeByte n) n := by
  intro rest
  rw [readByteValue, readHead_writeByte]
  simp only
  rw [if_pos n.toNat_lt, show n.toNat.toUInt8 = n from UInt8.ofNat_toNat]

/-- Items are read one after the other. -/
theorem readItems_flatten {item : Reader α} (write : α → List UInt8) {items : List α}
    (hitems : ∀ a ∈ items, ReadsBack item (write a) a) (rest : List UInt8) :
    readItems item items.length ((items.map write).flatten ++ rest) = some (items, rest) := by
  induction items with
  | nil => rfl
  | cons a items ih =>
    obtain ⟨ha, hitems⟩ := List.forall_mem_cons.mp hitems
    rw [List.map_cons, List.flatten_cons, List.append_assoc, List.length_cons, readItems, ha]
    simp [ih hitems]

theorem readsBack_list {item : Reader α} (write : α → List UInt8) {items : List α}
    (hlength : items.length < 2 ^ 32) (hitems : ∀ a ∈ items, ReadsBack item (write a) a) :
    ReadsBack (readList item) (writeList (items.map write)) items := by
  intro rest
  rw [readList, writeList, List.append_assoc, List.length_map, readHead_listHead hlength]
  exact readItems_flatten write hitems rest

/-! ### Records -/

/-- Different texts have different bytes. -/
theorem encode_injective {cs ds : List Char} (h : Text.encode cs = Text.encode ds) : cs = ds := by
  have hcs := Text.decode_encode cs
  rw [h, Text.decode_encode] at hcs
  exact hcs.symm

/-- The key of a field is read back. -/
theorem readKey_name {layout : Layout α} (hlayout : layout.names.Nodup) {f : RecordField α}
    (hf : f ∈ layout) (hname : FitsText f.name) (rest : List UInt8) :
    readKey layout (writeText f.name ++ rest) = some (some f, rest) := by
  have hfield : fieldNamed? layout (Text.encode f.name.toList) = some f := by
    refine Layout.find?_eq_some hlayout hf (beq_self_eq_true _) fun g hg => ?_
    exact String.toList_inj.mp (encode_injective (eq_of_beq hg))
  rw [readKey, writeText, List.append_assoc, readHead_textHead hname]
  simp only [takeBytes_append]
  rw [Option.map_some, hfield]

/-- The members of a map. -/
theorem readMembers_flatMap {levels : Nat} {rules : Reader (List Rule)} {layout : Layout α}
    (hlayout : layout.names.Nodup) {rule : Rule → List UInt8} (a : α) {seen : List String}
    {fields : List (RecordField α)} (hfields : Pending layout seen fields)
    (hnames : ∀ f ∈ fields, FitsText f.name)
    (hvalues : ∀ f ∈ fields, ∀ b,
      ReadsBack (readSlot rules f.slot b) (writeSlot rule f.slot a) (f.slot.copy a b))
    (b : α) (rest : List UInt8) :
    readMembers levels rules layout fields.length seen b
        ((fields.flatMap fun f => writeText f.name ++ writeSlot rule f.slot a) ++ rest) =
      some (copyFields fields a b, rest) := by
  induction fields generalizing seen b with
  | nil => rfl
  | cons f fields ih =>
    obtain ⟨hname, hnames⟩ := List.forall_mem_cons.mp hnames
    obtain ⟨hvalue, hvalues⟩ := List.forall_mem_cons.mp hvalues
    have hf : f ∈ layout := hfields.mem f List.mem_cons_self
    have hfresh : seen.contains f.name = false := by
      simpa using hfields.fresh f List.mem_cons_self
    -- the field is copied, and the fields after it are pending for a record with that copy
    have hrest := ih hfields.tail hnames hvalues (f.slot.copy a b)
    rw [List.flatMap_cons, List.append_assoc, List.append_assoc, List.length_cons, readMembers,
      readKey_name hlayout hf hname]
    simp only [hfresh, Bool.false_eq_true, if_false, hvalue b _, hrest]
    rfl

/-- **A record is read back** if the values of its fields are. -/
theorem readsBack_record {levels : Nat} {rules : Reader (List Rule)} {layout : Layout α}
    {start : α} (hlayout : layout.Lossless start) (hlength : layout.length < 2 ^ 32)
    (hnames : ∀ f ∈ layout, FitsText f.name) {rule : Rule → List UInt8} {a : α}
    (hvalues : ∀ f ∈ layout, ∀ b,
      ReadsBack (readSlot rules f.slot b) (writeSlot rule f.slot a) (f.slot.copy a b)) :
    ReadsBack (readRecord levels rules layout start) (writeRecord rule layout a) a := by
  intro rest
  have hall := pending_layout hlayout.nodup
  rw [readRecord, writeRecord, List.append_assoc, readHead_mapHead hlength]
  simp only
  rw [readMembers_flatMap hlayout.nodup a hall hnames hvalues, hlayout.copy]

/-! ### Rules and rule sets -/

/-- The value of a field is no text and no list that is too long. -/
def SlotFits (slot : Slot α) (a : α) : Prop :=
  match slot with
  | .text get _ => FitsText (get a)
  | .byte _ _ => True
  | .rules get _ => (get a).length < 2 ^ 32

instance (slot : Slot α) (a : α) : Decidable (SlotFits slot a) :=
  match slot with
  | .text get _ => inferInstanceAs (Decidable (FitsText (get a)))
  | .byte _ _ => inferInstanceAs (Decidable True)
  | .rules get _ => inferInstanceAs (Decidable ((get a).length < 2 ^ 32))

/-- The value of a field is read back, if that is so for rules. -/
theorem readsBack_slot {rules : Reader (List Rule)} {rule : Rule → List UInt8} {slot : Slot α}
    {a : α} (hfits : SlotFits slot a)
    (hrules : ∀ get set, slot = .rules get set →
      ReadsBack rules (writeList ((get a).map rule)) (get a)) (b : α) :
    ReadsBack (readSlot rules slot b) (writeSlot rule slot a) (slot.copy a b) := by
  cases slot with
  | text get set => exact (readsBack_text hfits).map fun v => set v b
  | byte get set => exact (readsBack_byte (get a)).map fun v => set v b
  | rules get set => exact (hrules get set rfl).map fun v => set v b

end BannerMatch.MessagePack

namespace BannerMatch

open MessagePack

/-- No text of the rule is too long. -/
def Rule.Fits (r : Rule) : Prop := ∀ f ∈ Rule.layout, SlotFits f.slot r

instance (r : Rule) : Decidable r.Fits :=
  inferInstanceAs (Decidable (∀ f ∈ Rule.layout, SlotFits f.slot r))

/-- No text of the rule set is too long, and there are not too many rules. -/
structure RuleSet.Fits (s : RuleSet) : Prop where
  fields : ∀ f ∈ RuleSet.layout, SlotFits f.slot s
  rules : ∀ r ∈ s.rules, r.Fits

theorem Rule.readsBack_messagePack {r : Rule} (hr : r.Fits) :
    ReadsBack readRule (writeRule r) r :=
  readsBack_record Rule.lossless_layout (by decide) (by decide) fun f hf b =>
    readsBack_slot (hr f hf) (fun get set hslot => absurd hslot (Rule.slot_ne_rules f hf get set)) b

theorem RuleSet.readsBack_messagePack {s : RuleSet} (hs : s.Fits) :
    ReadsBack MessagePack.readRuleSet s.messagePack s := by
  refine readsBack_record RuleSet.lossless_layout (by decide) (by decide) fun f hf b => ?_
  refine readsBack_slot (hs.fields f hf) (fun get set hslot => ?_) b
  have hlength : SlotFits (.rules get set) s := by
    rw [← hslot]
    exact hs.fields f hf
  rw [RuleSet.slot_rules f hf get set hslot] at hlength ⊢
  exact readsBack_list writeRule hlength fun r hr => Rule.readsBack_messagePack (hs.rules r hr)

/-- **Rule sets survive MessagePack**, if their texts and their list of rules fit. -/
theorem RuleSet.ofMessagePack?_messagePack {s : RuleSet} (hs : s.Fits) :
    RuleSet.ofMessagePack? s.messagePack = some s := by
  have hread := RuleSet.readsBack_messagePack hs []
  rw [List.append_nil] at hread
  rw [RuleSet.ofMessagePack?, hread, Option.map_some]

end BannerMatch
