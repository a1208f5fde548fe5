import BannerMatch.Proofs.Json.Records
import BannerMatch.Proofs.Text.Utf8
import Mathlib.Tactic

/-!
# Texts without their end

A written text that is cut off anywhere is refused because it ends too early, and for no other
reason (`RuleSet.ofJsonText_of_isPrefix`). Texts, lists and objects are refused by themselves
(`NeedsEnd`). A number that is cut off may be a number again, so all that can be said of it is that
its reader comes to the end of the text (`StopsAtEnd`); what is wrong then is that the object around
it does not go on.

A list or an object is cut off before one of its parts, inside it or after it (`prefix_row_cons`).
-/

namespace BannerMatch.Json

variable {α : Type}

/-! ### Cuts -/

/-- A text that is cut off in two parts is cut off in the first one, or after it. -/
theorem prefix_append_cases {front cs ds : List Char} (h : front <+: cs ++ ds) :
    front <+: cs ∨ ∃ back, back <+: ds ∧ front = cs ++ back := by
  obtain ⟨missing, h⟩ := h
  rcases List.append_eq_append_iff.mp h with ⟨more, hcs, -⟩ | ⟨back, hfront, hds⟩
  · exact .inl ⟨more, hcs.symm⟩
  · exact .inr ⟨back, ⟨missing, hds.symm⟩, hfront⟩

theorem IsGap.of_isPrefix {gap front : List Char} (hgap : IsGap gap) (h : front <+: gap) :
    IsGap front := fun c hc => hgap c (h.subset hc)

theorem Delimited.of_isPrefix {cs front : List Char} (hcs : Delimited cs) (h : front <+: cs) :
    Delimited front := by
  intro c hc
  obtain ⟨rest, rfl⟩ := List.head?_eq_some_iff.mp hc
  obtain ⟨missing, rfl⟩ := h
  exact hcs c rfl

theorem delimited_nil : Delimited [] := by
  simp [Delimited]

theorem skipBlank_gap {gap : List Char} (hgap : IsGap gap) : skipBlank gap = [] :=
  skipBlank_eq_nil_iff.mpr hgap

/-- **Where a row is cut off**: before its first part, inside this part, or after it. -/
theorem prefix_row_cons {gap part close front : List Char} {first : Bool}
    {parts : List (List Char)} (h : front <+: row gap first (part :: parts) ++ close) :
    front <+: comma first ++ gap ∨
      (∃ piece, piece ≠ [] ∧ piece <+: part ∧ front = comma first ++ (gap ++ piece)) ∨
      ∃ back, back <+: row gap false parts ++ close ∧
        front = comma first ++ (gap ++ (part ++ back)) := by
  have hrow : row gap first (part :: parts) ++ close =
      (comma first ++ gap) ++ (part ++ (row gap false parts ++ close)) := by
    simp [row]
  rw [hrow] at h
  rcases prefix_append_cases h with hbefore | ⟨piece, hpiece, rfl⟩
  · exact .inl hbefore
  rw [List.append_assoc]
  rcases prefix_append_cases hpiece with hinside | ⟨back, hback, rfl⟩
  · by_cases hne : piece = []
    · subst hne
      exact .inl (by simp)
    · exact .inr (.inl ⟨piece, hne, hinside, rfl⟩)
  · exact .inr (.inr ⟨back, hback, rfl⟩)

/-! ### Readers at the end of a text -/

/-- The end of the text was reached: too early, or right after what was read. -/
def RunsOut (result : Except Fault (α × List Char)) : Prop :=
  result = .error .truncated ∨ ∃ a, result = .ok (a, [])

/-- Of the characters, or of a start of them, nothing is left over. -/
def StopsAtEnd (reader : Reader α) (cs : List Char) : Prop :=
  ∀ ⦃gap front : List Char⦄, IsGap gap → front <+: gap ++ cs → RunsOut (reader front)

/-- Without their end the characters are too short. -/
def NeedsEnd (reader : Reader α) (cs : List Char) : Prop :=
  ∀ ⦃gap front : List Char⦄, IsGap gap → front <+: gap ++ cs → front ≠ gap ++ cs →
    reader front = .error .truncated

theorem NeedsEnd.stopsAtEnd {reader : Reader α} {cs : List Char} {a : α}
    (h : NeedsEnd reader cs) (hread : ReadsBack reader cs a) : StopsAtEnd reader cs := by
  intro gap front hgap hfront
  by_cases hwhole : front = gap ++ cs
  · have hok : reader (gap ++ (cs ++ [])) = .ok (a, []) := hread.reads hgap delimited_nil
    rw [List.append_nil, ← hwhole] at hok
    exact .inr ⟨a, hok⟩
  · exact .inl (h hgap hfront hwhole)

/-- It is enough to look at cuts inside the characters, if nothing is read of white space. -/
theorem needsEnd_of_cut {reader : Reader α} {cs : List Char}
    (hblank : ∀ gap, IsGap gap → reader gap = .error .truncated)
    (hcut : ∀ gap front, IsGap gap → front ≠ [] → front <+: cs → front ≠ cs →
      reader (gap ++ front) = .error .truncated) : NeedsEnd reader cs := by
  intro gap front hgap hfront hne
  rcases prefix_append_cases hfront with hfront | ⟨back, hback, rfl⟩
  · exact hblank front (hgap.of_isPrefix hfront)
  · by_cases hnil : back = []
    · subst hnil
      rw [List.append_nil]
      exact hblank gap hgap
    · exact hcut gap back hgap hnil hback fun heq => hne (by rw [heq])

theorem StopsAtEnd.map {β : Type} {reader : Reader α} {cs : List Char} (h : StopsAtEnd reader cs)
    (f : α → β) : StopsAtEnd (fun cs => (reader cs).map fun p => (f p.1, p.2)) cs := by
  intro gap front hgap hfront
  show RunsOut ((reader front).map _)
  rcases h hgap hfront with herror | ⟨a, hok⟩
  · rw [herror]
    exact .inl rfl
  · rw [hok]
    exact .inr ⟨f a, rfl⟩

/-! ### Strings -/

theorem readChars_nil (fuel : ℕ) : readChars fuel [] = .error .truncated := by
  cases fuel <;> rfl

theorem readChars_zero (cs : List Char) : readChars 0 cs = .error .truncated := by
  cases cs <;> rfl

/-- What is left of an escape that is cut off. -/
theorem readChars_backslash {escape : List Char} (h : readEscape escape = .error .truncated)
    (fuel : ℕ) : readChars fuel ('\\' :: escape) = .error .truncated := by
  cases fuel with
  | zero => rfl
  | succ fuel => rw [readChars, if_neg (by decide), if_pos rfl, h]

/-- The three forms in which characters are written. -/
theorem escapeChar_cases (c : Char) :
    escapeChar c = [c] ∨ (∃ d, escapeChar c = ['\\', d]) ∨
      ∃ m n, m < 16 ∧ n < 16 ∧
        escapeChar c = '\\' :: 'u' :: (['0', '0', hexDigit m] ++ [hexDigit n]) := by
  unfold escapeChar
  iterate 7
    split
    · exact .inr (.inl ⟨_, rfl⟩)
  split
  · exact .inr (.inr ⟨c.toNat / 16, c.toNat % 16, by omega, by omega, rfl⟩)
  · exact .inl rfl

/-- Four digits of which the last one is missing at least. -/
theorem readHex_cut {m : ℕ} (hm : m < 16) {front : List Char}
    (hfront : front <+: ['0', '0', hexDigit m]) : readHex front = .error .truncated := by
  have hzero : '0'.utf8Size = 1 := by decide
  refine if_pos ?_
  simp only [List.prefix_cons_iff, List.prefix_nil] at hfront
  rcases hfront with rfl | ⟨_, rfl, rfl | ⟨_, rfl, rfl | ⟨_, rfl, rfl⟩⟩⟩ <;>
    simp [Text.byteLength, hzero, utf8Size_hexDigit hm]

/-- What is written for a character, cut off. -/
theorem readChars_cutEscape {c : Char} {front : List Char} (hfront : front <+: escapeChar c)
    (hne : front ≠ escapeChar c) (fuel : ℕ) : readChars fuel front = .error .truncated := by
  rcases escapeChar_cases c with hc | ⟨d, hc⟩ | ⟨m, n, hm, hn, hc⟩
  · rw [hc] at hfront hne
    rcases List.prefix_cons_iff.mp hfront with rfl | ⟨back, rfl, hback⟩
    · exact readChars_nil fuel
    · obtain rfl := List.prefix_nil.mp hback
      exact absurd rfl hne
  · rw [hc] at hfront hne
    rcases List.prefix_cons_iff.mp hfront with rfl | ⟨back, rfl, hback⟩
    · exact readChars_nil fuel
    rcases List.prefix_cons_iff.mp hback with rfl | ⟨last, rfl, hlast⟩
    · exact readChars_backslash rfl fuel
    · obtain rfl := List.prefix_nil.mp hlast
      exact absurd rfl hne
  · rw [hc] at hfront hne
    rcases List.prefix_cons_iff.mp hfront with rfl | ⟨back, rfl, hback⟩
    · exact readChars_nil fuel
    rcases List.prefix_cons_iff.mp hback with rfl | ⟨digits, rfl, hdigits⟩
    · exact readChars_backslash rfl fuel
    -- after the `u`, at least the last one of the four digits is missing
    rcases List.prefix_concat_iff.mp hdigits with rfl | hdigits
    · exact absurd rfl hne
    · refine readChars_backslash ?_ fuel
      rw [readEscape, if_pos rfl, readHex_cut hm hdigits]

/-- The characters of a string without the quotation mark at the end. -/
theorem readChars_cut {cs front : List Char} (hfront : front <+: cs.flatMap escapeChar) (fuel : ℕ) :
    readChars fuel front = .error .truncated := by
  induction cs generalizing front fuel with
  | nil =>
    rw [List.prefix_nil.mp hfront]
    exact readChars_nil fuel
  | cons c cs ih =>
    rw [List.flatMap_cons] at hfront
    by_cases hcut : front <+: escapeChar c ∧ front ≠ escapeChar c
    · exact readChars_cutEscape hcut.1 hcut.2 fuel
    · -- the character is there as a whole
      obtain ⟨back, hback, rfl⟩ : ∃ back, back <+: cs.flatMap escapeChar ∧
          front = escapeChar c ++ back := by
        rcases prefix_append_cases hfront with hinside | hafter
        · have hwhole : front = escapeChar c := by
            by_contra hne
            exact hcut ⟨hinside, hne⟩
          exact ⟨[], List.nil_prefix, by rw [hwhole, List.append_nil]⟩
        · exact hafter
      cases fuel with
      | zero => exact readChars_zero _
      | succ fuel =>
        rw [readChars_escapeChar, ih hback]
        rfl

theorem readString_cut {cs front : List Char} (hfront : front <+: cs.flatMap escapeChar) :
    readString front = .error .truncated :=
  readChars_cut hfront front.length

/-- **A text needs its closing quotation mark.** -/
theorem needsEnd_text (s : String) : NeedsEnd readTextValue (quote s.toList) := by
  refine needsEnd_of_cut (fun gap hgap => ?_) fun gap front hgap hnil hfront hne => ?_
  · rw [readTextValue, skipBlank_gap hgap]
    rfl
  · rw [quote] at hfront hne
    rcases List.prefix_cons_iff.mp hfront with rfl | ⟨back, rfl, hback⟩
    · exact absurd rfl hnil
    rw [readTextValue, skipBlank_sign hgap (by decide)]
    rcases List.prefix_concat_iff.mp hback with rfl | hback
    · exact absurd rfl hne
    · simp only [readString_cut hback]
      rfl

/-! ### Numbers -/

/-- Digits that are cut off are the digits of a number that is not greater. -/
theorem prefix_toDigits {k : ℕ} {front : List Char} (hne : front ≠ [])
    (hfront : front <+: Nat.toDigits 10 k) : ∃ m ≤ k, front = Nat.toDigits 10 m := by
  induction k using Nat.strong_induction_on with
  | h k ih =>
    by_cases hwhole : front = Nat.toDigits 10 k
    · exact ⟨k, le_rfl, hwhole⟩
    by_cases hlong : 10 ≤ k
    · rw [Nat.toDigits_of_base_le (by decide) hlong] at hfront hwhole
      have hshort := (List.prefix_concat_iff.mp hfront).resolve_left hwhole
      obtain ⟨m, hm, heq⟩ := ih (k / 10) (by omega) hshort
      exact ⟨m, by omega, heq⟩
    · -- of a single digit there is no other start
      rw [Nat.toDigits_of_lt_base (by omega)] at hfront hwhole
      obtain rfl | ⟨back, rfl, hback⟩ := List.prefix_cons_iff.mp hfront
      · exact absurd rfl hne
      · exact absurd (by rw [List.prefix_nil.mp hback]) hwhole

theorem toList_toString_byte (n : UInt8) : (toString n).toList = Nat.toDigits 10 n.toNat :=
  Nat.toList_repr

/-- A start of what is written for a number below `256` is written for such a number. -/
theorem prefix_byte {n : UInt8} {front : List Char} (hne : front ≠ [])
    (hfront : front <+: (toString n).toList) : ∃ m : UInt8, front = (toString m).toList := by
  rw [toList_toString_byte] at hfront
  obtain ⟨m, hm, rfl⟩ := prefix_toDigits hne hfront
  have hlt := n.toNat_lt
  refine ⟨m.toUInt8, ?_⟩
  rw [toList_toString_byte, Text.toNat_toUInt8 (by omega)]

theorem readByteValue_gap {gap : List Char} (hgap : IsGap gap) :
    readByteValue gap = .error .truncated := by
  simp only [readByteValue, skipBlank_gap hgap]
  rfl

/-- **A number that is cut off is a number**, with nothing after it. -/
theorem stopsAtEnd_byte (n : UInt8) : StopsAtEnd readByteValue (toString n).toList := by
  intro gap front hgap hfront
  rcases prefix_append_cases hfront with hfront | ⟨back, hback, rfl⟩
  · exact .inl (readByteValue_gap (hgap.of_isPrefix hfront))
  by_cases hnil : back = []
  · subst hnil
    rw [List.append_nil]
    exact .inl (readByteValue_gap hgap)
  · obtain ⟨m, rfl⟩ := prefix_byte hnil hback
    have hread : readByteValue (gap ++ ((toString m).toList ++ [])) = .ok (m, []) :=
      (readsBack_byte m).reads hgap delimited_nil
    rw [List.append_nil] at hread
    exact .inr ⟨m, hread⟩

/-! ### Lists -/

/-- No part of a list is reached. -/
theorem nextItem_gap (first : Bool) {gap front : List Char} (hgap : IsGap gap)
    (hfront : front <+: comma first ++ gap) : nextItem first front = .error .truncated := by
  cases first with
  | true =>
    have hblank : IsGap front := hgap.of_isPrefix hfront
    simp only [nextItem, skipBlank_gap hblank]
  | false =>
    rcases List.prefix_cons_iff.mp hfront with rfl | ⟨back, rfl, hback⟩
    · rfl
    · simp only [nextItem, skipBlank_comma, skipBlank_gap (hgap.of_isPrefix hback)]
      rfl

theorem readItems_gap {item : Reader α} (first : Bool) {gap front : List Char} (hgap : IsGap gap)
    (hfront : front <+: comma first ++ gap) (fuel : ℕ) :
    readItems item fuel first front = .error .truncated := by
  cases fuel with
  | zero => rfl
  | succ fuel => rw [readItems, nextItem_gap first hgap hfront]

/-- What is not empty starts as the whole does. -/
theorem StartsValue.of_isPrefix {cs front : List Char} (hcs : StartsValue cs) (hne : front ≠ [])
    (hfront : front <+: cs) : StartsValue front := by
  obtain ⟨c, rest, rfl, hc⟩ := hcs
  obtain rfl | ⟨back, rfl, -⟩ := List.prefix_cons_iff.mp hfront
  · exact absurd rfl hne
  · exact ⟨c, back, rfl, hc⟩

/-- **The items of a list without the closing bracket.** -/
theorem readItems_cut {item : Reader α} {g : Gaps} (hg : g.Blank) (text : α → List Char)
    {items : List α} (hitems : ∀ a ∈ items, ReadsBack item (text a) a)
    (hends : ∀ a ∈ items, StopsAtEnd item (text a)) (first : Bool) (fuel : ℕ) {front : List Char}
    (hfront : front <+: row g.part first (items.map text) ++ g.close) :
    readItems item fuel first front = .error .truncated := by
  induction items generalizing first fuel front with
  | nil =>
    cases fuel with
    | zero => rfl
    | succ fuel =>
      have hblank : IsGap front := hg.close.of_isPrefix hfront
      simp only [readItems, nextItem, skipBlank_gap hblank]
  | cons a items ih =>
    obtain ⟨ha, hitems⟩ := List.forall_mem_cons.mp hitems
    obtain ⟨hend, hends⟩ := List.forall_mem_cons.mp hends
    rw [List.map_cons] at hfront
    rcases prefix_row_cons hfront with hbefore | ⟨piece, hne, hpiece, rfl⟩ | ⟨back, hback, rfl⟩
    · exact readItems_gap first hg.part hbefore fuel
    · -- the item is cut off, or the list ends right after it
      have hnext := nextItem_row first hg.part (ha.starts.of_isPrefix hne hpiece) []
      rw [List.append_nil] at hnext
      cases fuel with
      | zero => rfl
      | succ fuel =>
        rw [readItems, hnext]
        rcases hend isGap_nil hpiece with herror | ⟨b, hok⟩
        · simp only [herror]
        · have hnone : readItems item fuel false [] = .error .truncated :=
            readItems_gap false isGap_nil List.nil_prefix fuel
          simp only [hok, hnone]
          rfl
    · have hdelimited : Delimited back := by
        have hbracket : Delimited [']'] := by simp [Delimited]
        refine (delimited_row g.part (items.map text) hg.close hbracket []).of_isPrefix ?_
        exact hback.trans ⟨[']'], by simp⟩
      have hread := ha.reads isGap_nil hdelimited
      rw [List.nil_append] at hread
      cases fuel with
      | zero => rfl
      | succ fuel =>
        rw [readItems, nextItem_row first hg.part ha.starts]
        simp only [hread, ih hitems hends false fuel hback]
        rfl

/-- **A list needs its closing bracket.** -/
theorem needsEnd_list {item : Reader α} {g : Gaps} (hg : g.Blank) (text : α → List Char)
    {items : List α} (hitems : ∀ a ∈ items, ReadsBack item (text a) a)
    (hends : ∀ a ∈ items, StopsAtEnd item (text a)) :
    NeedsEnd (readList item) (listText g (items.map text)) := by
  refine needsEnd_of_cut (fun gap hgap => ?_) fun gap front hgap hnil hfront hne => ?_
  · rw [readList, skipBlank_gap hgap]
    rfl
  · rw [listText] at hfront hne
    obtain rfl | ⟨back, rfl, hback⟩ := List.prefix_cons_iff.mp hfront
    · exact absurd rfl hnil
    rw [← List.append_assoc] at hback hne
    rw [readList, skipBlank_sign hgap (by decide)]
    obtain rfl | hback := List.prefix_concat_iff.mp hback
    · exact absurd rfl hne
    · exact readItems_cut hg text hitems hends true _ hback

/-! ### Records -/

/-- No member of an object is reached. -/
theorem nextMember_gap (first : Bool) {gap front : List Char} (hgap : IsGap gap)
    (hfront : front <+: comma first ++ gap) : nextMember first front = .error .truncated := by
  cases first with
  | true =>
    have hblank : IsGap front := hgap.of_isPrefix hfront
    simp only [nextMember, skipBlank_gap hblank]
  | false =>
    rcases List.prefix_cons_iff.mp hfront with rfl | ⟨back, rfl, hback⟩
    · rfl
    · simp only [nextMember, skipBlank_comma, skipBlank_gap (hgap.of_isPrefix hback)]
      rfl

variable {rules : Reader (List Rule)} {layout : Layout α}

theorem readMembers_gap (first : Bool) {gap front : List Char} (hgap : IsGap gap)
    (hfront : front <+: comma first ++ gap) (fuel : ℕ) (seen : List String) (b : α) :
    readMembers rules layout fuel seen first b front = .error .truncated := by
  cases fuel with
  | zero => rfl
  | succ fuel => rw [readMembers, nextMember_gap first hgap hfront]

/-- **One member that is cut off**, after the opening quotation mark of its name. -/
theorem runsOut_readMember (hlayout : layout.names.Nodup) {f : RecordField α} (hf : f ∈ layout)
    {seen : List String} (hseen : f.name ∉ seen) {g : Gaps} (hg : g.Blank) {value : List Char}
    {b : α} (hvalue : StopsAtEnd (readSlot rules f.slot b) value) {front : List Char}
    (hfront : '"' :: front <+: memberText g f.name value) :
    RunsOut (readMember rules layout seen b front) := by
  have hname : memberText g f.name value = '"' :: (f.name.toList.flatMap escapeChar ++
      ('"' :: ':' :: (g.colon ++ value))) := by
    simp [memberText, quote]
  rw [hname, List.cons_prefix_cons] at hfront
  rcases prefix_append_cases hfront.2 with hcut | ⟨back, hback, rfl⟩
  · rw [readMember, readString_cut hcut]
    exact .inl rfl
  obtain rfl | ⟨tail, rfl, htail⟩ := List.prefix_cons_iff.mp hback
  · rw [List.append_nil, readMember, readString_cut List.prefix_rfl]
    exact .inl rfl
  -- the name is read, and the field under it has not been given
  have hfresh : seen.contains f.name = false := by simpa using hseen
  rw [readMember, readString_quote]
  simp only [String.ofList_toList, Layout.field?_eq_some hlayout hf, hfresh]
  rw [if_neg Bool.false_ne_true]
  obtain rfl | ⟨last, rfl, hlast⟩ := List.prefix_cons_iff.mp htail
  · exact .inl rfl
  · have hcolon : readColon (':' :: last) = .ok last := rfl
    rw [hcolon, Except.bind]
    rcases hvalue hg.colon hlast with herror | ⟨a, hok⟩
    · rw [herror]
      exact .inl rfl
    · rw [hok]
      exact .inr ⟨_, rfl⟩

/-- **The members of an object without the closing brace.** -/
theorem readMembers_cut (hlayout : layout.names.Nodup) {g : Gaps} (hg : g.Blank)
    {value : RecordField α → List Char} {a : α} {seen : List String}
    {fields : List (RecordField α)} (hfields : Pending layout seen fields)
    (hvalues : ∀ f ∈ fields, ∀ b, ReadsBack (readSlot rules f.slot b) (value f) (f.slot.copy a b))
    (hends : ∀ f ∈ fields, ∀ b, StopsAtEnd (readSlot rules f.slot b) (value f))
    (first : Bool) (b : α) (fuel : ℕ) {front : List Char}
    (hfront : front <+: row g.part first (memberTexts g value fields) ++ g.close) :
    readMembers rules layout fuel seen first b front = .error .truncated := by
  induction fields generalizing first seen b fuel front with
  | nil =>
    cases fuel with
    | zero => rfl
    | succ fuel =>
      have hblank : IsGap front := hg.close.of_isPrefix hfront
      simp only [readMembers, nextMember, skipBlank_gap hblank]
  | cons f fields ih =>
    obtain ⟨hvalue, hvalues⟩ := List.forall_mem_cons.mp hvalues
    obtain ⟨hend, hends⟩ := List.forall_mem_cons.mp hends
    have hf : f ∈ layout := hfields.mem f List.mem_cons_self
    have hfresh : f.name ∉ seen := hfields.fresh f List.mem_cons_self
    rw [memberTexts, List.map_cons, ← memberTexts] at hfront
    rcases prefix_row_cons hfront with hbefore | ⟨piece, hne, hpiece, rfl⟩ | ⟨back, hback, rfl⟩
    · exact readMembers_gap first hg.part hbefore fuel seen b
    · obtain rfl | ⟨piece, rfl, -⟩ := List.prefix_cons_iff.mp hpiece
      · exact absurd rfl hne
      cases fuel with
      | zero => rfl
      | succ fuel =>
        rw [readMembers, nextMember_quote first hg.part]
        rcases runsOut_readMember hlayout hf hfresh hg (hend b) hpiece with
          herror | ⟨⟨seen, c⟩, hok⟩
        · simp only [herror]
        · simp only [hok]
          exact readMembers_gap false isGap_nil List.nil_prefix fuel seen c
    · have hdelimited : Delimited back := by
        have hbrace : Delimited ['\x7d'] := by simp [Delimited]
        refine (delimited_row g.part (memberTexts g value fields) hg.close hbrace []).of_isPrefix ?_
        exact hback.trans ⟨['\x7d'], by simp⟩
      have hmember := readMember_text hlayout hf hfresh hg.colon (hvalue b) hdelimited
      cases fuel with
      | zero => rfl
      | succ fuel =>
        rw [memberText]
        simp only [List.append_assoc, List.cons_append]
        rw [readMembers, nextMember_row first hg.part]
        simp only [hmember]
        exact ih hfields.tail hvalues hends false (f.slot.copy a b) fuel hback

/-- **A record needs its closing brace.** -/
theorem needsEnd_record (hlayout : layout.names.Nodup) {start : α} {g : Gaps} (hg : g.Blank)
    {value : RecordField α → List Char} {a : α}
    (hvalues : ∀ f ∈ layout, ∀ b, ReadsBack (readSlot rules f.slot b) (value f) (f.slot.copy a b))
    (hends : ∀ f ∈ layout, ∀ b, StopsAtEnd (readSlot rules f.slot b) (value f)) :
    NeedsEnd (readRecord rules layout start) (objectText g (memberTexts g value layout)) := by
  refine needsEnd_of_cut (fun gap hgap => ?_) fun gap front hgap hnil hfront hne => ?_
  · rw [readRecord, skipBlank_gap hgap]
    rfl
  · rw [objectText] at hfront hne
    obtain rfl | ⟨back, rfl, hback⟩ := List.prefix_cons_iff.mp hfront
    · exact absurd rfl hnil
    rw [← List.append_assoc] at hback hne
    rw [readRecord, skipBlank_sign hgap (by decide)]
    obtain rfl | hback := List.prefix_concat_iff.mp hback
    · exact absurd rfl hne
    · exact readMembers_cut hlayout hg (pending_layout hlayout) hvalues hends true start _ hback

/-- The reader of a field comes to the end of a value that is cut off, if that is so for lists of
rules. -/
theorem stopsAtEnd_slot {rule : Rule → Value} {pretty : Bool} {depth : ℕ} {a : α} {slot : Slot α}
    (hrules : ∀ get set, slot = .rules get set →
      StopsAtEnd rules ((Value.list ((get a).map rule)).written pretty depth)) (b : α) :
    StopsAtEnd (readSlot rules slot b) ((Slot.value rule slot a).written pretty depth) := by
  cases slot with
  | text get set =>
    rw [Slot.value, written_text]
    exact ((needsEnd_text (get a)).stopsAtEnd (readsBack_text (get a))).map fun v => set v b
  | byte get set =>
    rw [Slot.value, written_number]
    exact (stopsAtEnd_byte (get a)).map fun v => set v b
  | rules get set => exact (hrules get set rfl).map fun v => set v b

/-! ### Rules and rule sets -/

theorem needsEnd_rule (pretty : Bool) (depth : ℕ) (r : Rule) :
    NeedsEnd readRule (r.toJson.written pretty depth) := by
  have hnone : ∀ f ∈ Rule.layout, ∀ get set, f.slot ≠ .rules get set := Rule.slot_ne_rules
  rw [Rule.toJson, written_recordValue (by simp [Rule.layout]) (by decide)]
  refine needsEnd_record Rule.lossless_layout.nodup (blank_gapsAt pretty depth) (a := r) ?_ ?_
  · exact fun f hf b =>
      readsBack_slot (fun get set hslot => absurd hslot (hnone f hf get set)) b
  · exact fun f hf b =>
      stopsAtEnd_slot (fun get set hslot => absurd hslot (hnone f hf get set)) b

theorem needsEnd_rules (pretty : Bool) (depth : ℕ) (rs : List Rule) :
    NeedsEnd (readList readRule) ((Value.list (rs.map Rule.toJson)).written pretty depth) := by
  obtain ⟨g, hg, hwritten⟩ := written_rules pretty depth rs
  have hitems : ∀ r ∈ rs, ReadsBack readRule (r.toJson.written pretty (depth + 1)) r :=
    fun r _ => readsBack_rule pretty (depth + 1) r
  rw [hwritten]
  exact needsEnd_list hg _ hitems fun r hr =>
    (needsEnd_rule pretty (depth + 1) r).stopsAtEnd (hitems r hr)

theorem needsEnd_ruleSet (pretty : Bool) (depth : ℕ) (s : RuleSet) :
    NeedsEnd readRuleSet (s.toJson.written pretty depth) := by
  rw [RuleSet.toJson, written_recordValue (by simp [RuleSet.layout]) (by decide)]
  refine needsEnd_record RuleSet.lossless_layout.nodup (blank_gapsAt pretty depth) (a := s) ?_ ?_
  · exact fun f hf b =>
      readsBack_slot (fun get set _ => readsBack_rules pretty (depth + 1) (get s)) b
  · exact fun f hf b =>
      stopsAtEnd_slot (fun get set _ => (needsEnd_rules pretty (depth + 1) (get s)).stopsAtEnd
        (readsBack_rules pretty (depth + 1) (get s))) b

end BannerMatch.Json

namespace BannerMatch

/-- **Without its end the text of a rule set is refused as too short**, wherever it is cut off. -/
theorem RuleSet.ofJsonText_of_isPrefix {s : RuleSet} {pretty : Bool} {front : List Char}
    (hfront : front <+: s.jsonText pretty) (hne : front ≠ s.jsonText pretty) :
    RuleSet.ofJsonText front = .error .truncated := by
  have hread : Json.readRuleSet front = .error .truncated :=
    Json.needsEnd_ruleSet pretty 0 s Json.isGap_nil hfront hne
  rw [RuleSet.ofJsonText, Json.readText, hread]

end BannerMatch
