import BannerMatch.Proofs.Json.Grammar
import BannerMatch.Proofs.Json.Truncation

/-!
# Exactly what readers accept

`Decides reader cs P`: wherever the characters `cs` stand, the reader gives what `P` holds of, up to
their end, and nothing else. For well-formed values this is shown here of texts, of numbers below
`256` and of lists. A text is a string that spells it; a number is written by its digits alone, so
`1.0`, `1e2` and `-0` are none; and a list has as many items as the characters have.
-/

namespace BannerMatch.Json

variable {α : Type}

/-- The reader gives what `P` holds of, up to the end of the characters, and nothing else. -/
def Decides (reader : Reader α) (cs : List Char) (P : α → Prop) : Prop :=
  ∀ ⦃gap rest : List Char⦄, IsGap gap → Delimited rest → ∀ (a : α) (tail : List Char),
    reader (gap ++ (cs ++ rest)) = .ok (a, tail) ↔ tail = rest ∧ P a

/-- Of characters that the reader refuses, nothing holds. -/
theorem decides_none {reader : Reader α} {cs : List Char} {P : α → Prop}
    (hread : ∀ ⦃gap rest : List Char⦄, IsGap gap → Delimited rest → ∀ p,
      reader (gap ++ (cs ++ rest)) ≠ .ok p)
    (hP : ∀ a, ¬ P a) : Decides reader cs P := by
  intro gap rest hgap hrest a tail
  exact ⟨fun h => absurd h (hread hgap hrest _), fun h => absurd h.2 (hP a)⟩

/-- The first character tells the kind of a value. -/
theorem IsValue.of_head {c : Char} {cs : List Char} (h : IsValue (c :: cs)) :
    (c = '"' → ∃ body, IsBody body ∧ cs = body ++ ['"']) ∧
    (c = '-' ∨ c.isDigit = true → IsNumber (c :: cs)) ∧
    (c = '[' → ∃ close : Gap, ∃ items : List Item, (∀ i ∈ items, IsValue i.value) ∧
      c :: cs = listText close.closing (items.map Item.text)) ∧
    (c = '\x7b' → ∃ close : Gap, ∃ members : List Member, (∀ m ∈ members, IsValue m.item.value) ∧
      c :: cs = objectText close.closing (members.map Member.text)) := by
  generalize hv : c :: cs = v at h
  cases h with
  | word h =>
    subst hv
    simp only [words, List.mem_cons, List.cons.injEq, List.not_mem_nil, or_false] at h
    rcases h with ⟨rfl, -⟩ | ⟨rfl, -⟩ | ⟨rfl, -⟩
    all_goals
      refine ⟨fun hc => ?_, fun hc => ?_, fun hc => ?_, fun hc => ?_⟩
      all_goals exact absurd hc (by decide)
  | number h =>
    obtain ⟨d, tail, rfl, hd⟩ := h.exists_cons
    obtain ⟨rfl, rfl⟩ := List.cons.inj hv
    refine ⟨fun hc => ?_, fun _ => h, fun hc => ?_, fun hc => ?_⟩
    all_goals exact absurd hc (isDigit_ne hd (by decide))
  | @text body h =>
    obtain ⟨rfl, rfl⟩ := List.cons.inj hv
    refine ⟨fun _ => ⟨body, h, rfl⟩, fun hc => ?_, fun hc => ?_, fun hc => ?_⟩
    all_goals exact absurd hc (by decide)
  | @list close items h =>
    obtain ⟨rfl, rfl⟩ := List.cons.inj hv
    refine ⟨fun hc => ?_, fun hc => ?_, fun _ => ⟨close, items, h, rfl⟩, fun hc => ?_⟩
    all_goals exact absurd hc (by decide)
  | @object close members h =>
    obtain ⟨rfl, rfl⟩ := List.cons.inj hv
    refine ⟨fun hc => ?_, fun hc => ?_, fun hc => ?_, fun _ => ⟨close, members, h, rfl⟩⟩
    all_goals exact absurd hc (by decide)

/-! ### Texts -/

/-- The characters are a string that spells the text. -/
def IsText (cs : List Char) (s : String) : Prop :=
  ∃ body, cs = '"' :: (body ++ ['"']) ∧ Spells body s.toList

/-- **Texts are the strings that spell them.** -/
theorem decides_text {cs : List Char} (h : IsValue cs) : Decides readTextValue cs (IsText cs) := by
  obtain ⟨c, cs, rfl, hblank, -⟩ := h.startsValue
  by_cases hc : c = '"'
  · subst hc
    obtain ⟨body, hbody, rfl⟩ := h.of_head.1 rfl
    intro gap rest hgap hrest s tail
    rw [List.cons_append, List.append_assoc, readTextValue, skipBlank_sign hgap (by decide)]
    simp only [List.singleton_append]
    constructor
    · intro hread
      obtain ⟨p, hstring, heq⟩ := map_eq_ok_iff.mp hread
      cases heq
      obtain ⟨htail, hspells⟩ := (readString_body hbody rest).mp hstring
      exact ⟨htail, body, rfl, by rwa [String.toList_ofList]⟩
    · rintro ⟨rfl, other, heq, hspells⟩
      have hother : body = other := List.append_cancel_right (List.cons.inj heq).2
      subst hother
      rw [(readString_body hbody tail).mpr ⟨rfl, hspells⟩, Except.map, String.ofList_toList]
  · refine decides_none (fun gap rest hgap hrest p hread => ?_) ?_
    · rw [List.cons_append, readTextValue, skipBlank_sign hgap hblank] at hread
      split at hread
      · rename_i heq
        exact hc (List.cons.inj heq).1
      · cases hread
    · rintro s ⟨body, heq, -⟩
      exact hc (List.cons.inj heq).1

/-! ### Numbers -/

theorem ofDigits_append (ds : List ℕ) (d : ℕ) : ofDigits (ds ++ [d]) = 10 * ofDigits ds + d := by
  simp [ofDigits]

theorem digitChar_digitValue {c : Char} (hc : c.isDigit = true) :
    digitValue c < 10 ∧ Nat.digitChar (digitValue c) = c := by
  have hbounds : 48 ≤ c.toNat ∧ c.toNat ≤ 57 := by
    simpa [Char.isDigit, UInt32.le_iff_toNat_le] using hc
  have hlt : digitValue c < 10 := by
    unfold digitValue
    omega
  refine ⟨hlt, Char.toNat_inj.mp ?_⟩
  rw [Nat.toNat_digitChar_of_lt_ten hlt, digitValue]
  omega

/-- A numeral is what is written for its number. -/
theorem IsNumeral.eq_toDigits {ds : List Char} (h : IsNumeral ds) :
    ds = Nat.toDigits 10 (ofDigits (ds.map digitValue)) := by
  induction ds using List.reverseRecOn with
  | nil => exact absurd rfl h.ne_nil
  | append_singleton ds c ih =>
    obtain ⟨hlt, hchar⟩ := digitChar_digitValue (h.digits c (by simp))
    rw [List.map_append, List.map_singleton, ofDigits_append]
    by_cases hnil : ds = []
    · subst hnil
      rw [show 10 * ofDigits ([].map digitValue) + digitValue c = digitValue c from Nat.zero_add _,
        Nat.toDigits_of_lt_base hlt, hchar]
      rfl
    · -- without its last digit the numeral has no superfluous zero either, and it is not zero
      have hnonzero : ds.head? ≠ some '0' := by
        intro hzero
        have hshort := congrArg List.length (h.zero (by rw [List.head?_append, hzero]; rfl))
        rw [List.length_append] at hshort
        exact hnil (List.length_eq_zero_iff.mp (by simpa using hshort))
      have hds := ih
        ⟨hnil, fun d hd => h.digits d (by simp [hd]), fun hzero => absurd hzero hnonzero⟩
      have hpos : ofDigits (ds.map digitValue) ≠ 0 := by
        intro hzero
        rw [hzero] at hds
        exact hnonzero (by rw [hds]; rfl)
      rw [Nat.toDigits_of_base_le (by decide) (by omega), Nat.mul_add_div (by decide),
        Nat.div_eq_of_lt hlt, Nat.add_zero, ← hds, Nat.mul_add_mod, Nat.mod_eq_of_lt hlt, hchar]

/-- A numeral whose value is below `256` is what is written for it. -/
theorem IsNumeral.eq_byte {ds : List Char} (h : IsNumeral ds) {n : ℕ} (hlt : n < 256)
    (hn : ofDigits (ds.map digitValue) = n) : ds = (toString n.toUInt8).toList := by
  rw [toList_toString_byte, Text.toNat_toUInt8 hlt, ← hn]
  exact h.eq_toDigits

/-- Only numerals have a value as natural numbers. -/
theorem IsNumber.of_readNumber {cs rest tail : List Char} (h : IsNumber cs)
    (hrest : EndsNumber rest) {n : ℕ} (hread : readNumber (cs ++ rest) = .ok (some n, tail)) :
    tail = rest ∧ IsNumeral cs ∧ ofDigits (cs.map digitValue) = n := by
  obtain ⟨p, hparts, hnatural⟩ := h.readParts hrest
  simp only [readNumber, hparts] at hread
  split at hread
  · cases hread
  obtain ⟨hvalue, rfl⟩ := Prod.mk.inj (Except.ok.inj hread)
  rcases hnatural with hnumeral | hnone
  · rw [readParts_numeral hnumeral hrest] at hparts
    cases hparts
    simp only [NumberParts.natural?, Bool.or_false, Bool.false_or] at hvalue
    split at hvalue
    · cases hvalue
    · exact ⟨rfl, hnumeral, Option.some.inj hvalue⟩
  · rw [hnone] at hvalue
    cases hvalue

/-- **Numbers below `256` are their decimal digits.** -/
theorem decides_byte {cs : List Char} (h : IsValue cs) :
    Decides readByteValue cs fun n => cs = (toString n).toList := by
  obtain ⟨c, cs, rfl, hblank, -⟩ := h.startsValue
  by_cases hc : c = '-' ∨ c.isDigit = true
  · have hnumber := h.of_head.2.1 hc
    intro gap rest hgap hrest n tail
    constructor
    · intro hread
      rw [List.cons_append, readByteValue] at hread
      simp only [skipBlank_sign hgap hblank] at hread
      rw [if_pos (by simpa using hc), ← List.cons_append] at hread
      split at hread
      · cases hread
      · rename_i k left hnum
        obtain ⟨rfl, hnumeral, hk⟩ := hnumber.of_readNumber hrest.endsNumber hnum
        split at hread
        · rename_i hlt
          cases hread
          exact ⟨rfl, hnumeral.eq_byte hlt hk⟩
        · cases hread
      · cases hread
    · rintro ⟨rfl, heq⟩
      rw [heq]
      exact (readsBack_byte n).reads hgap hrest
  · refine decides_none (fun gap rest hgap hrest p hread => ?_) fun n heq => ?_
    · rw [List.cons_append, readByteValue] at hread
      simp only [skipBlank_sign hgap hblank] at hread
      rw [if_neg (by simpa using hc)] at hread
      cases hread
    · -- what is written for a number starts with a digit
      have hdigit := (isNumeral_byte n).digits c (by rw [← heq]; exact List.mem_cons_self)
      exact hc (.inr hdigit)

/-! ### Lists -/

/-- White space in front of the next item does not matter. -/
theorem nextItem_gap_append (first : Bool) {gap : List Char} (hgap : IsGap gap) (cs : List Char) :
    nextItem first (gap ++ cs) = nextItem first cs := by
  rw [nextItem, nextItem, skipBlank_gap_append hgap]

theorem nextItem_parts_nil (first : Bool) (close : Gap) (rest : List Char) :
    nextItem first (partsText first [] close ']' rest) = .ok none := by
  rw [nextItem, skipBlank_parts_nil first close (by decide)]
  rfl

theorem nextItem_parts_cons (first : Bool) {i : Item} (hi : StartsValue i.value)
    (parts : List (List Char)) (close : Gap) (rest : List Char) :
    nextItem first (partsText first (i.text :: parts) close ']' rest) =
      .ok (some (i.value ++ (i.after.chars ++ partsText false parts close ']' rest))) := by
  rw [partsText_cons, Item.text, List.append_assoc, List.append_assoc]
  exact nextItem_row first i.before.isGap hi _

theorem readListEnd_parts (first : Bool) (before close : Gap) (rest : List Char) :
    readListEnd (before.chars ++ partsText first [] close ']' rest) = .ok rest := by
  rw [readListEnd, skipBlank_gap_append before.isGap, skipBlank_parts_nil first close (by decide)]
  rfl

/-- A value in a list or an object is decided by its reader, whatever follows it there. -/
theorem Decides.item {reader : Reader α} {P : α → Prop} {i : Item} (h : Decides reader i.value P)
    (parts : List (List Char)) (close : Gap) {c : Char} (hc : Delimited [c]) (rest : List Char)
    (a : α) (tail : List Char) :
    reader (i.value ++ (i.after.chars ++ partsText false parts close c rest)) = .ok (a, tail) ↔
      tail = i.after.chars ++ partsText false parts close c rest ∧ P a :=
  h isGap_nil (i.after.delimited_parts parts close hc rest) a tail

/-- The items of a list, with its end. -/
theorem readItems_parts {item : Reader α} {P : List Char → α → Prop}
    (hitem : ∀ cs, IsValue cs → Decides item cs (P cs)) {items : List Item}
    (hitems : ∀ i ∈ items, IsValue i.value) (first : Bool) (before close : Gap) {fuel : ℕ}
    (hfuel : items.length < fuel) (rest : List Char) (as : List α) (tail : List Char) :
    readItems item fuel first
        (before.chars ++ partsText first (items.map Item.text) close ']' rest) = .ok (as, tail) ↔
      tail = rest ∧ List.Forall₂ (fun i a => P i.value a) items as := by
  have hbracket : Delimited [']'] := by simp [Delimited]
  induction items generalizing first before fuel as with
  | nil =>
    obtain ⟨fuel, rfl⟩ := Nat.exists_eq_succ_of_ne_zero (by omega : fuel ≠ 0)
    rw [readItems, nextItem_gap_append first before.isGap, List.map_nil, nextItem_parts_nil]
    simp only [readListEnd_parts]
    constructor
    · intro h
      cases h
      exact ⟨rfl, .nil⟩
    · rintro ⟨rfl, ⟨⟩⟩
      rfl
  | cons i items ih =>
    obtain ⟨hi, hitems⟩ := List.forall_mem_cons.mp hitems
    obtain ⟨fuel, rfl⟩ := Nat.exists_eq_succ_of_ne_zero (by omega : fuel ≠ 0)
    have hone := (hitem i.value hi).item (items.map Item.text) close hbracket rest
    have hrun := ih hitems false i.after (Nat.lt_of_succ_lt_succ hfuel)
    rw [readItems, nextItem_gap_append first before.isGap, List.map_cons,
      nextItem_parts_cons first hi.startsValue]
    simp only
    constructor
    · intro h
      split at h
      · cases h
      · rename_i a left hread
        obtain ⟨rfl, ha⟩ := (hone a left).mp hread
        obtain ⟨p, hmore, heq⟩ := map_eq_ok_iff.mp h
        cases heq
        obtain ⟨htail, hall⟩ := (hrun p.1).mp hmore
        exact ⟨htail, .cons ha hall⟩
    · rintro ⟨rfl, hall⟩
      cases hall with
      | cons ha hall =>
        rw [(hone _ _).mpr ⟨rfl, ha⟩]
        simp only
        rw [(hrun _).mpr ⟨rfl, hall⟩]
        rfl

/-- The characters are a list of values, and `P` says of each what it stands for. -/
def IsListOf (P : List Char → α → Prop) (cs : List Char) (as : List α) : Prop :=
  ∃ close : Gap, ∃ items : List Item, (∀ i ∈ items, IsValue i.value) ∧
    cs = listText close.closing (items.map Item.text) ∧
    List.Forall₂ (fun i a => P i.value a) items as

/-- The items of a row fit into the fuel that readers take. -/
theorem length_lt_parts (parts : List (List Char)) (close : Gap) (c : Char) (rest : List Char) :
    parts.length < (partsText true parts close c rest).length + 1 := by
  have h := length_le_row [] true parts
  simp only [partsText, List.length_append, List.length_cons]
  omega

/-- One way to write a list of values. -/
theorem decides_listText {item : Reader α} {P : List Char → α → Prop}
    (hitem : ∀ cs, IsValue cs → Decides item cs (P cs)) (close : Gap) {items : List Item}
    (hitems : ∀ i ∈ items, IsValue i.value) :
    Decides (readList item) (listText close.closing (items.map Item.text))
      fun as => List.Forall₂ (fun i a => P i.value a) items as := by
  intro gap rest hgap hrest as tail
  have hfuel := length_lt_parts (items.map Item.text) close ']' rest
  rw [List.length_map] at hfuel
  rw [listText_append, readList, skipBlank_sign hgap (by decide)]
  exact readItems_parts hitem hitems true .none close hfuel rest as tail

/-- **Lists are read item by item.** -/
theorem decides_list {item : Reader α} {P : List Char → α → Prop}
    (hitem : ∀ cs, IsValue cs → Decides item cs (P cs)) {cs : List Char} (h : IsValue cs) :
    Decides (readList item) cs (IsListOf P cs) := by
  obtain ⟨c, cs, rfl, hblank, -⟩ := h.startsValue
  by_cases hc : c = '['
  · obtain ⟨close, items, hitems, hcs⟩ := h.of_head.2.2.1 hc
    intro gap rest hgap hrest as tail
    constructor
    · intro hread
      rw [hcs] at hread
      obtain ⟨htail, hall⟩ := (decides_listText hitem close hitems hgap hrest as tail).mp hread
      exact ⟨htail, close, items, hitems, hcs, hall⟩
    · rintro ⟨htail, close, items, hitems, hcs, hall⟩
      rw [hcs]
      exact (decides_listText hitem close hitems hgap hrest as tail).mpr ⟨htail, hall⟩
  · refine decides_none (fun gap rest hgap hrest p hread => ?_) ?_
    · rw [List.cons_append, readList, skipBlank_sign hgap hblank] at hread
      split at hread
      · rename_i heq
        exact hc (List.cons.inj heq).1
      · cases hread
    · rintro as ⟨close, items, -, heq, -⟩
      exact hc (List.cons.inj heq).1

end BannerMatch.Json
