import BannerMatch.Json.Records
import BannerMatch.Proofs.Json.Layout
import BannerMatch.Proofs.Json.Values
import BannerMatch.Proofs.Record.Layouts
import Mathlib.Data.List.TakeWhile

/-!
# Reading written records back

A list whose items are read back is read back (`readsBack_list`), and a record whose fields are, if
its layout is lossless (`readsToEnd_record`). So rule sets survive both forms of JSON, and the text
around them may be white space and, after them, nothing else: `RuleSet.ofJsonText_between`.
-/

namespace BannerMatch.Json

variable {α β : Type}

/-! ### Lists -/

/-- The gap before the closing bracket is a gap, and so is the one before each part. -/
structure Gaps.Blank (g : Gaps) : Prop where
  part : IsGap g.part
  close : IsGap g.close
  colon : IsGap g.colon

/-- What follows a part of a row delimits it. -/
theorem delimited_row (gap : List Char) (parts : List (List Char)) {close : List Char}
    (hclose : IsGap close) {c : Char} (hc : Delimited [c]) (rest : List Char) :
    Delimited (row gap false parts ++ (close ++ c :: rest)) := by
  cases parts with
  | nil => exact delimited_gap hclose hc rest
  | cons p parts => exact delimited_comma _

theorem skipBlank_comma (cs : List Char) : skipBlank (',' :: cs) = ',' :: cs :=
  skipBlank_sign isGap_nil (by decide) cs

/-- The way to the next item of a list. -/
theorem nextItem_row (first : Bool) {gap cs : List Char} (hgap : IsGap gap)
    (hcs : StartsValue cs) (rest : List Char) :
    nextItem first (comma first ++ (gap ++ (cs ++ rest))) = .ok (some (cs ++ rest)) := by
  have hskip := skipBlank_append hgap hcs rest
  obtain ⟨c, cs, rfl, -, hc⟩ := hcs
  cases first with
  | true =>
    simp only [nextItem, comma, if_true, List.nil_append, hskip]
    simp [hc]
  | false =>
    simp only [nextItem, comma, Bool.false_eq_true, if_false, List.singleton_append,
      skipBlank_comma, hskip]
    simp [hc]

/-- The end of a list. -/
theorem readItems_end {item : Reader α} {close : List Char} (hclose : IsGap close) (fuel : Nat)
    (first : Bool) (rest : List Char) :
    readItems item (fuel + 1) first (close ++ ']' :: rest) = .ok ([], rest) := by
  have hskip := skipBlank_sign hclose (c := ']') (by decide) rest
  simp only [readItems, nextItem, readListEnd, hskip]
  rfl

/-- The items of a list, with its end. -/
theorem readItems_row {item : Reader α} {g : Gaps} (hg : g.Blank) (text : α → List Char)
    {items : List α} (hitems : ∀ a ∈ items, ReadsBack item (text a) a) (first : Bool) (fuel : Nat)
    (rest : List Char) :
    readItems item (items.length + fuel + 1) first
        (row g.part first (items.map text) ++ (g.close ++ ']' :: rest)) =
      .ok (items, rest) := by
  induction items generalizing first with
  | nil => exact readItems_end hg.close _ first rest
  | cons a items ih =>
    obtain ⟨ha, hitems⟩ := List.forall_mem_cons.mp hitems
    have hbracket : Delimited [']'] := by simp [Delimited]
    -- what comes after the item, a comma or the end of the list, delimits it
    have hread := ha.reads isGap_nil
      (delimited_row g.part (items.map text) hg.close hbracket rest)
    have hfuel : (a :: items).length + fuel + 1 = items.length + fuel + 1 + 1 := by
      rw [List.length_cons]
      omega
    rw [List.nil_append] at hread
    rw [hfuel, List.map_cons, row, List.append_assoc, List.append_assoc, List.append_assoc,
      readItems, nextItem_row first hg.part ha.starts]
    simp only [hread, ih hitems false]
    rfl

theorem startsValue_list (g : Gaps) (parts : List (List Char)) :
    StartsValue (listText g parts) := ⟨'[', _, rfl, by decide, by decide⟩

theorem startsValue_object (g : Gaps) (parts : List (List Char)) :
    StartsValue (objectText g parts) := ⟨'\x7b', _, rfl, by decide, by decide⟩

/-- The fuel that readers take, the length of the text, is enough for the parts in it. -/
theorem exists_fuel (gap : List Char) (first : Bool) (parts : List (List Char))
    (rest : List Char) (hrest : rest ≠ []) :
    ∃ fuel, (row gap first parts ++ rest).length + 1 = parts.length + fuel + 1 := by
  have hlength := length_le_row gap first parts
  have hpos := List.length_pos_iff.mpr hrest
  refine ⟨(row gap first parts ++ rest).length - parts.length, ?_⟩
  rw [List.length_append]
  omega

/-- **A list is read back** if its items are. -/
theorem readsBack_list {item : Reader α} {g : Gaps} (hg : g.Blank) (text : α → List Char)
    {items : List α} (hitems : ∀ a ∈ items, ReadsBack item (text a) a) :
    ReadsBack (readList item) (listText g (items.map text)) items where
  starts := startsValue_list g _
  reads {gap rest} hgap _ := by
    have htext : listText g (items.map text) ++ rest =
        '[' :: (row g.part true (items.map text) ++ (g.close ++ ']' :: rest)) := by
      simp [listText]
    obtain ⟨fuel, hfuel⟩ := exists_fuel g.part true (items.map text) (g.close ++ ']' :: rest)
      (by simp)
    rw [List.length_map] at hfuel
    rw [readList, skipBlank_append hgap (startsValue_list g _), htext]
    simp only [hfuel]
    exact readItems_row hg text hitems true fuel rest

/-! ### Records -/

/-- The way into the quotation marks around the name of the next member of an object. -/
theorem nextMember_quote (first : Bool) {gap : List Char} (hgap : IsGap gap) (rest : List Char) :
    nextMember first (comma first ++ (gap ++ '"' :: rest)) = .ok (some rest) := by
  have hskip := skipBlank_sign hgap (c := '"') (by decide) rest
  cases first with
  | true =>
    simp only [nextMember, comma, if_true, List.nil_append, hskip]
    rfl
  | false =>
    simp only [nextMember, comma, Bool.false_eq_true, if_false, List.singleton_append,
      skipBlank_comma, hskip]
    rfl

/-- The way to the name of the next member of an object. -/
theorem nextMember_row (first : Bool) {gap : List Char} (hgap : IsGap gap) (name rest : List Char) :
    nextMember first (comma first ++ (gap ++ (quote name ++ rest))) =
      .ok (some (name.flatMap escapeChar ++ '"' :: rest)) := by
  rw [quote_append]
  exact nextMember_quote first hgap _

/-- One member is read into its field. -/
theorem readMember_text {rules : Reader (List Rule)} {layout : Layout α}
    (hlayout : layout.names.Nodup) {f : RecordField α} (hf : f ∈ layout) {seen : List String}
    (hseen : f.name ∉ seen) {colon value : List Char} (hcolon : IsGap colon) {a b : α}
    (hvalue : ReadsBack (readSlot rules f.slot b) value (f.slot.copy a b)) {rest : List Char}
    (hrest : Delimited rest) :
    readMember rules layout seen b
        (f.name.toList.flatMap escapeChar ++ '"' :: ':' :: (colon ++ (value ++ rest))) =
      .ok ((f.name :: seen, f.slot.copy a b), rest) := by
  have hread : readColon (':' :: (colon ++ (value ++ rest))) = .ok (colon ++ (value ++ rest)) := rfl
  have hfresh : seen.contains f.name = false := by simpa using hseen
  rw [readMember, readString_quote]
  simp only [String.ofList_toList, Layout.field?_eq_some hlayout hf, hfresh, hread]
  rw [if_neg Bool.false_ne_true, Except.bind, hvalue.reads hcolon hrest]
  rfl

/-- The end of an object in which no required field is missing. -/
theorem readMembers_end {rules : Reader (List Rule)} {layout : Layout α} {close : List Char}
    (hclose : IsGap close) {seen : List String}
    (hrequired : ∀ f ∈ layout, f.isRequired = true → f.name ∈ seen) (fuel : Nat) (first : Bool)
    (b : α) (rest : List Char) :
    readMembers rules layout (fuel + 1) seen first b (close ++ '\x7d' :: rest) = .ok (b, rest) := by
  have hskip := skipBlank_sign hclose (c := '\x7d') (by decide) rest
  have hmissing : (layout.any fun f => f.isRequired && !seen.contains f.name) = false := by
    rw [List.any_eq_false]
    intro f hf
    by_cases hr : f.isRequired = true
    · simpa [hr] using hrequired f hf hr
    · simp [hr]
  simp only [readMembers, nextMember, hskip, hmissing]
  rfl

/-- Fields as they are written, from what is written for their values. -/
def memberTexts (g : Gaps) (value : RecordField α → List Char) (fields : List (RecordField α)) :
    List (List Char) :=
  fields.map fun f => memberText g f.name (value f)

/-- The members of an object, with its end. -/
theorem readMembers_row {rules : Reader (List Rule)} {layout : Layout α}
    (hlayout : layout.names.Nodup) {g : Gaps} (hg : g.Blank) {value : RecordField α → List Char}
    {a : α} {seen : List String} {fields : List (RecordField α)}
    (hfields : Pending layout seen fields)
    (hvalues : ∀ f ∈ fields, ∀ b, ReadsBack (readSlot rules f.slot b) (value f) (f.slot.copy a b))
    (first : Bool) (b : α) (fuel : Nat) (rest : List Char) :
    readMembers rules layout (fields.length + fuel + 1) seen first b
        (row g.part first (memberTexts g value fields) ++ (g.close ++ '\x7d' :: rest)) =
      .ok (copyFields fields a b, rest) := by
  induction fields generalizing first seen b with
  | nil =>
    refine readMembers_end hg.close (fun f hf hr => ?_) _ first b rest
    simpa using hfields.required f hf hr
  | cons f fields ih =>
    obtain ⟨hvalue, hvalues⟩ := List.forall_mem_cons.mp hvalues
    have hf : f ∈ layout := hfields.mem f List.mem_cons_self
    have hfresh : f.name ∉ seen := hfields.fresh f List.mem_cons_self
    have hbrace : Delimited ['\x7d'] := by simp [Delimited]
    -- the field is copied, and the fields after it are pending for a record with that copy
    have hmember := readMember_text hlayout hf hfresh hg.colon (hvalue b)
      (delimited_row g.part (memberTexts g value fields) hg.close hbrace rest)
    have hrest := ih hfields.tail hvalues false (f.slot.copy a b)
    have hfuel : (f :: fields).length + fuel + 1 = fields.length + fuel + 1 + 1 := by
      rw [List.length_cons]
      omega
    rw [hfuel, memberTexts, List.map_cons, ← memberTexts, row, memberText]
    simp only [List.append_assoc, List.cons_append]
    rw [readMembers, nextMember_row first hg.part]
    simp only [hmember, hrest]
    rfl

/-- **A record is read back** if the values of its fields are, and it ends with its brace. -/
theorem readsToEnd_record {rules : Reader (List Rule)} {layout : Layout α} {start : α}
    (hlayout : layout.Lossless start) {g : Gaps} (hg : g.Blank)
    {value : RecordField α → List Char} {a : α}
    (hvalues : ∀ f ∈ layout, ∀ b,
      ReadsBack (readSlot rules f.slot b) (value f) (f.slot.copy a b)) :
    ReadsToEnd (readRecord rules layout start) (objectText g (memberTexts g value layout)) a where
  starts := startsValue_object g _
  reads {gap} hgap rest := by
    have htext : objectText g (memberTexts g value layout) ++ rest =
        '\x7b' :: (row g.part true (memberTexts g value layout) ++ (g.close ++ '\x7d' :: rest)) := by
      simp [objectText]
    obtain ⟨fuel, hfuel⟩ := exists_fuel g.part true (memberTexts g value layout)
      (g.close ++ '\x7d' :: rest) (by simp)
    rw [memberTexts, List.length_map, ← memberTexts] at hfuel
    rw [readRecord, skipBlank_append hgap (startsValue_object g _), htext]
    simp only [hfuel]
    rw [readMembers_row hlayout.nodup hg (pending_layout hlayout.nodup) hvalues, hlayout.copy]

/-! ### Rules and rule sets -/

theorem blank_gapsAt (pretty : Bool) (depth : Nat) : (gapsAt pretty depth).Blank := by
  have hline : ∀ n, IsGap (newLine n) := by
    intro n c hc
    rcases List.mem_cons.mp hc with rfl | hc
    · rfl
    · rw [(List.mem_replicate.mp hc).2]
      rfl
  cases pretty
  · exact ⟨isGap_nil, isGap_nil, isGap_nil⟩
  · exact ⟨hline _, hline _, by simp [gapsAt, Gaps.lines, IsGap, isBlank]⟩

/-- The value of a field is read back, if that is so for lists of rules. -/
theorem readsBack_slot {rules : Reader (List Rule)} {rule : Rule → Value} {pretty : Bool}
    {depth : Nat} {a : α} {slot : Slot α}
    (hrules : ∀ get set, slot = .rules get set →
      ReadsBack rules ((Value.list ((get a).map rule)).written pretty depth) (get a)) (b : α) :
    ReadsBack (readSlot rules slot b) ((Slot.value rule slot a).written pretty depth)
      (slot.copy a b) := by
  cases slot with
  | text get set =>
    rw [Slot.value, written_text]
    exact (readsBack_text (get a)).map fun v => set v b
  | byte get set =>
    rw [Slot.value, written_number]
    exact (readsBack_byte (get a)).map fun v => set v b
  | rules get set => exact (hrules get set rfl).map fun v => set v b

/-- A record of which no field is left out is an object with all of them. -/
theorem written_recordValue {rule : Rule → Value} {layout : Layout α} (hne : layout ≠ [])
    (hfull : ∀ f ∈ layout, f.omitsEmpty = false) (pretty : Bool) (depth : Nat) (a : α) :
    (recordValue rule layout a).written pretty depth =
      objectText (gapsAt pretty depth) (memberTexts (gapsAt pretty depth)
        (fun f => (Slot.value rule f.slot a).written pretty (depth + 1)) layout) := by
  have hall : (layout.filter fun f => !f.isOmitted a) = layout := by
    rw [List.filter_eq_self]
    intro f hf
    simp [RecordField.isOmitted, hfull f hf]
  have hmembers : layout.map (fun f => (f.name, Slot.value rule f.slot a)) ≠ [] := by
    simpa using hne
  rw [recordValue, hall, written_object pretty depth hmembers, List.map_map]
  rfl

/-- **A record is read back in both forms**, if none of its fields is ever left out. -/
theorem readsToEnd_recordValue {rules : Reader (List Rule)} {rule : Rule → Value}
    {layout : Layout α} {start : α} (hlayout : layout.Lossless start) (hne : layout ≠ [])
    (hfull : ∀ f ∈ layout, f.omitsEmpty = false) {pretty : Bool} {depth : Nat} {a : α}
    (hrules : ∀ f ∈ layout, ∀ get set, f.slot = .rules get set →
      ReadsBack rules ((Value.list ((get a).map rule)).written pretty (depth + 1)) (get a)) :
    ReadsToEnd (readRecord rules layout start) ((recordValue rule layout a).written pretty depth)
      a := by
  rw [written_recordValue hne hfull]
  exact readsToEnd_record hlayout (blank_gapsAt pretty depth) fun f hf b =>
    readsBack_slot (hrules f hf) b

theorem readsBack_rule (pretty : Bool) (depth : Nat) (r : Rule) :
    ReadsBack readRule (r.toJson.written pretty depth) r :=
  (readsToEnd_recordValue Rule.lossless_layout (by simp [Rule.layout]) (by decide)
    fun f hf get set hslot => absurd hslot (Rule.slot_ne_rules f hf get set)).readsBack

/-- A list of rules in both forms: an empty one is always written on one line. -/
theorem written_rules (pretty : Bool) (depth : Nat) (rs : List Rule) :
    ∃ g : Gaps, g.Blank ∧ (Value.list (rs.map Rule.toJson)).written pretty depth =
      listText g (rs.map fun r => r.toJson.written pretty (depth + 1)) := by
  by_cases hne : rs = []
  · subst hne
    exact ⟨.none, blank_gapsAt false 0, written_list_nil pretty depth⟩
  · refine ⟨gapsAt pretty depth, blank_gapsAt pretty depth, ?_⟩
    rw [written_list pretty depth (by simpa using hne), List.map_map]
    rfl

theorem readsBack_rules (pretty : Bool) (depth : Nat) (rs : List Rule) :
    ReadsBack (readList readRule) ((Value.list (rs.map Rule.toJson)).written pretty depth) rs := by
  obtain ⟨g, hg, hwritten⟩ := written_rules pretty depth rs
  rw [hwritten]
  exact readsBack_list hg _ fun r _ => readsBack_rule pretty (depth + 1) r

theorem readsToEnd_ruleSet (pretty : Bool) (depth : Nat) (s : RuleSet) :
    ReadsToEnd readRuleSet (s.toJson.written pretty depth) s :=
  readsToEnd_recordValue RuleSet.lossless_layout (by simp [RuleSet.layout]) (by decide)
    fun _ _ _ _ _ => readsBack_rules pretty (depth + 1) _

/-! ### Whole texts -/

theorem skipBlank_eq_nil_iff {cs : List Char} : skipBlank cs = [] ↔ IsGap cs :=
  List.dropWhile_eq_nil_iff

/-- A value between white space is the value of the text. -/
theorem ReadsToEnd.readText {reader : Reader α} {cs : List Char} {a : α}
    (h : ReadsToEnd reader cs a) {before after : List Char} (hbefore : IsGap before)
    (hafter : IsGap after) : readText reader (before ++ (cs ++ after)) = .ok a := by
  rw [Json.readText, h.reads hbefore]
  simp only [skipBlank_eq_nil_iff.mpr hafter]
  rfl

/-- After a value there may be nothing but white space. -/
theorem ReadsToEnd.readText_of_not_isGap {reader : Reader α} {cs : List Char} {a : α}
    (h : ReadsToEnd reader cs a) {before after : List Char} (hbefore : IsGap before)
    (hafter : ¬ IsGap after) :
    Json.readText reader (before ++ (cs ++ after)) = .error .malformed := by
  have hleft : (skipBlank after).isEmpty = false := by
    rw [List.isEmpty_eq_false_iff]
    exact mt skipBlank_eq_nil_iff.mp hafter
  rw [Json.readText, h.reads hbefore]
  simp only [hleft]
  rfl

end BannerMatch.Json

namespace BannerMatch

open Json (IsGap)

/-- **Rule sets survive JSON**, on several lines or on one. -/
theorem RuleSet.ofJsonText_jsonText (s : RuleSet) (pretty : Bool) :
    RuleSet.ofJsonText (s.jsonText pretty) = .ok s := by
  have hread := (Json.readsToEnd_ruleSet pretty 0 s).readText Json.isGap_nil Json.isGap_nil
  rw [List.nil_append, List.append_nil] at hread
  exact hread

/-- **The text of a rule set, and what may stand around it**: between white space it is read back,
in both forms and whatever characters the rules hold; anything else after it is a fault. -/
theorem RuleSet.ofJsonText_between (s : RuleSet) (pretty : Bool) {before : List Char}
    (hbefore : IsGap before) (after : List Char) :
    (IsGap after → RuleSet.ofJsonText (before ++ (s.jsonText pretty ++ after)) = .ok s) ∧
      (¬ IsGap after →
        RuleSet.ofJsonText (before ++ (s.jsonText pretty ++ after)) = .error .malformed) := by
  have hset : Json.ReadsToEnd Json.readRuleSet (s.jsonText pretty) s :=
    Json.readsToEnd_ruleSet pretty 0 s
  exact ⟨hset.readText hbefore, hset.readText_of_not_isGap hbefore⟩

/-- A rule set with characters of every kind that JSON writes in a form of its own, empty texts and
confidences at both ends of their range. -/
def oddRuleSet : RuleSet where
  version := "\"\\/\x08\x0c\n\r\t\x00\x1f\x7f"
  author := "é\u2028𝄞"
  rules := [{}, { id := "a\u0300", pattern := "\\x41\\u0041", confidence := 255 }]

/-- White space around the rule set, and then a second closing brace. -/
theorem RuleSet.ofJsonText_oddRuleSet :
    IsGap "\r\n\t ".toList ∧ IsGap " \n".toList ∧ ¬ IsGap " \x7d".toList ∧
      RuleSet.ofJsonText ("\r\n\t ".toList ++ (oddRuleSet.jsonText true ++ " \n".toList)) =
        .ok oddRuleSet ∧
      RuleSet.ofJsonText ("\r\n\t ".toList ++ (oddRuleSet.jsonText false ++ " \x7d".toList)) =
        .error .malformed := by
  have hbefore : IsGap "\r\n\t ".toList := by simp [IsGap, Json.isBlank]
  have hafter : IsGap " \n".toList := by simp [IsGap, Json.isBlank]
  have hbrace : ¬ IsGap " \x7d".toList := by simp [IsGap, Json.isBlank]
  exact ⟨hbefore, hafter, hbrace, (ofJsonText_between oddRuleSet true hbefore _).1 hafter,
    (ofJsonText_between oddRuleSet false hbefore _).2 hbrace⟩

end BannerMatch
