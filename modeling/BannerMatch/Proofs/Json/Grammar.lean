import BannerMatch.Json.Skip
import BannerMatch.Proofs.Json.Records
import BannerMatch.Proofs.Json.Spelling
import Mathlib.Data.List.DropRight

/-!
# Well-formed values

`IsValue` is the grammar of JSON values: words, numbers, strings, lists and objects, however deep
and with any white space between their parts. A list or an object is put together from `Item`s or
`Member`s, which carry the white space around them.

Any such value is passed over up to its end (`skipValue_value`). The induction is on the grammar;
for a list or an object the run over its parts is one lemma (`skipItems_row`, `skipMembers_row`).
-/

namespace BannerMatch.Json

/-! ### The grammar -/

/-- White space. -/
structure Gap where
  chars : List Char
  isGap : IsGap chars

/-- No white space. -/
def Gap.none : Gap := ⟨[], isGap_nil⟩

/-- Digits, one at least. -/
structure IsDigits (ds : List Char) : Prop where
  ne_nil : ds ≠ []
  digits : ∀ c ∈ ds, c.isDigit = true

/-- The point of a number with the digits after it, or nothing. -/
inductive IsFraction : List Char → Prop
  | absent : IsFraction []
  | point {ds : List Char} (hds : IsDigits ds) : IsFraction ('.' :: ds)

/-- The exponent of a number, or nothing. -/
inductive IsExponent : List Char → Prop
  | absent : IsExponent []
  | power {e : Char} {sign ds : List Char} (he : e = 'e' ∨ e = 'E')
      (hsign : sign = [] ∨ sign = ['+'] ∨ sign = ['-']) (hds : IsDigits ds) :
      IsExponent (e :: (sign ++ ds))

/-- A number. -/
inductive IsNumber : List Char → Prop
  | parts {sign whole fraction exponent : List Char} (hsign : sign = [] ∨ sign = ['-'])
      (hwhole : IsNumeral whole) (hfraction : IsFraction fraction)
      (hexponent : IsExponent exponent) : IsNumber (sign ++ (whole ++ (fraction ++ exponent)))

/-- A value in a list or an object, with the white space around it. -/
structure Item where
  before : Gap
  value : List Char
  after : Gap

/-- The characters of an item. -/
def Item.text (i : Item) : List Char := i.before.chars ++ (i.value ++ i.after.chars)

/-- A member of an object: white space, what stands between the quotation marks of the name, white
space in front of the colon, and the value. -/
structure Member where
  before : Gap
  label : List Char
  isBody : IsBody label
  colon : Gap
  item : Item

/-- The characters of a member. -/
def Member.text (m : Member) : List Char :=
  m.before.chars ++ '"' :: (m.label ++ '"' :: (m.colon.chars ++ ':' :: m.item.text))

/-- The gaps of a list or an object whose parts bring theirs along. -/
def Gap.closing (g : Gap) : Gaps := ⟨[], g.chars, []⟩

/-- The values that are words. -/
def words : List (List Char) :=
  [['n', 'u', 'l', 'l'], ['t', 'r', 'u', 'e'], ['f', 'a', 'l', 's', 'e']]

/-- A well-formed value. -/
inductive IsValue : List Char → Prop
  | word {cs : List Char} (h : cs ∈ words) : IsValue cs
  | number {cs : List Char} (h : IsNumber cs) : IsValue cs
  | text {body : List Char} (h : IsBody body) : IsValue ('"' :: (body ++ ['"']))
  | list (close : Gap) {items : List Item} (h : ∀ i ∈ items, IsValue i.value) :
      IsValue (listText close.closing (items.map Item.text))
  | object (close : Gap) {members : List Member} (h : ∀ m ∈ members, IsValue m.item.value) :
      IsValue (objectText close.closing (members.map Member.text))

/-! ### Gaps -/

theorem skipBlank_gap_append {gap : List Char} (hgap : IsGap gap) (cs : List Char) :
    skipBlank (gap ++ cs) = skipBlank cs :=
  List.dropWhile_append_of_pos hgap

theorem skipBlank_skipBlank (cs : List Char) : skipBlank (skipBlank cs) = skipBlank cs :=
  List.dropWhile_idempotent isBlank cs

theorem delimited_gap_append {gap cs : List Char} (hgap : IsGap gap) (hcs : Delimited cs) :
    Delimited (gap ++ cs) := by
  cases gap with
  | nil => exact hcs
  | cons b gap => simp [Delimited, hgap b List.mem_cons_self]

/-- The parts of a list or an object with its closing bracket and what follows it; `first` says that
no part stands before them. -/
def partsText (first : Bool) (parts : List (List Char)) (close : Gap) (bracket : Char)
    (rest : List Char) : List Char :=
  row [] first parts ++ (close.chars ++ bracket :: rest)

theorem partsText_cons (first : Bool) (part : List Char) (parts : List (List Char)) (close : Gap)
    (bracket : Char) (rest : List Char) :
    partsText first (part :: parts) close bracket rest =
      comma first ++ (part ++ partsText false parts close bracket rest) := by
  simp [partsText, row]

theorem listText_append (close : Gap) (parts : List (List Char)) (rest : List Char) :
    listText close.closing parts ++ rest = '[' :: partsText true parts close ']' rest := by
  simp [listText, Gap.closing, partsText]

theorem objectText_append (close : Gap) (parts : List (List Char)) (rest : List Char) :
    objectText close.closing parts ++ rest = '\x7b' :: partsText true parts close '\x7d' rest := by
  simp [objectText, Gap.closing, partsText]

/-- A value in a list or an object is delimited by what follows it. -/
theorem Gap.delimited_parts (after : Gap) (parts : List (List Char)) (close : Gap) {c : Char}
    (hc : Delimited [c]) (rest : List Char) :
    Delimited (after.chars ++ partsText false parts close c rest) :=
  delimited_gap_append after.isGap (delimited_row [] parts close.isGap hc rest)

/-- After the last part comes the closing bracket. -/
theorem skipBlank_parts_nil (first : Bool) (close : Gap) {c : Char} (hc : isBlank c = false)
    (rest : List Char) : skipBlank (partsText first [] close c rest) = c :: rest :=
  skipBlank_sign close.isGap hc rest

/-- After any other part come a comma and the next part. -/
theorem skipBlank_parts_cons (part : List Char) (parts : List (List Char)) (close : Gap) (c : Char)
    (rest : List Char) :
    skipBlank (partsText false (part :: parts) close c rest) =
      ',' :: (part ++ partsText false parts close c rest) := by
  rw [partsText_cons]
  exact skipBlank_comma _

/-! ### Numbers -/

theorem IsNumeral.isDigits {ds : List Char} (h : IsNumeral ds) : IsDigits ds :=
  ⟨h.ne_nil, h.digits⟩

theorem readDigits_digits {ds rest : List Char} (hds : IsDigits ds) (hrest : EndsDigits rest) :
    readDigits (ds ++ rest) = .ok (ds.map digitValue, rest) := by
  have hne : (ds.map digitValue).isEmpty = false := by
    simpa using hds.ne_nil
  rw [readDigits, leadingDigits, afterDigits, takeWhile_digits hds.digits hrest,
    dropWhile_digits hds.digits hrest, hne]
  rfl

/-- Digits do not start with a sign. -/
theorem IsDigits.exists_cons {ds : List Char} (h : IsDigits ds) :
    ∃ d tail, ds = d :: tail ∧ d.isDigit = true ∧ d ≠ '-' ∧ d ≠ '+' := by
  obtain ⟨d, tail, rfl⟩ := List.exists_cons_of_ne_nil h.ne_nil
  have hd := h.digits d List.mem_cons_self
  refine ⟨d, tail, rfl, hd, ?_, ?_⟩
  all_goals
    rintro rfl
    exact absurd hd (by decide)

theorem exists_readSigned {sign ds rest : List Char}
    (hsign : sign = [] ∨ sign = ['+'] ∨ sign = ['-']) (hds : IsDigits ds)
    (hrest : EndsDigits rest) : ∃ n, readSigned (sign ++ (ds ++ rest)) = .ok (n, rest) := by
  have hread := readDigits_digits hds hrest
  rcases hsign with rfl | rfl | rfl
  · obtain ⟨d, tail, rfl, -, hminus, hplus⟩ := hds.exists_cons
    rw [List.nil_append, List.cons_append, readSigned, ← List.cons_append, hread]
    · exact ⟨_, rfl⟩
    · exact fun _ heq => hminus (List.cons.inj heq).1
    · exact fun _ heq => hplus (List.cons.inj heq).1
  · rw [List.singleton_append, readSigned, hread]
    exact ⟨_, rfl⟩
  · rw [List.singleton_append, readSigned, hread]
    exact ⟨_, rfl⟩

/-- The exponent is read; if there is one, the number is no natural number. -/
theorem IsExponent.readExponent {exponent rest : List Char} (h : IsExponent exponent)
    (hrest : EndsNumber rest) :
    ∃ e, readExponent (exponent ++ rest) = .ok (e, rest) ∧ (e = none → exponent = []) := by
  cases h with
  | absent => exact ⟨none, readExponent_ends hrest, fun _ => rfl⟩
  | power he hsign hds =>
    obtain ⟨n, hread⟩ := exists_readSigned hsign hds hrest.endsDigits
    refine ⟨some n, ?_, fun hnone => by cases hnone⟩
    rw [List.cons_append, List.append_assoc]
    rcases he with rfl | rfl
    all_goals
      rw [Json.readExponent, hread]
      rfl

/-- Neither a digit nor a point starts an exponent. -/
theorem IsExponent.head_append {exponent rest : List Char} (h : IsExponent exponent)
    (hrest : EndsNumber rest) : ∀ c ∈ (exponent ++ rest).head?, c.isDigit = false ∧ c ≠ '.' := by
  intro c hc
  cases h with
  | absent => exact ⟨(hrest c hc).1, (hrest c hc).2.1⟩
  | power he _ _ =>
    cases hc
    rcases he with rfl | rfl <;> decide

/-- The fraction is read; if there is one, the number is no natural number. -/
theorem IsFraction.readFraction {fraction rest : List Char} (h : IsFraction fraction)
    (hrest : ∀ c ∈ rest.head?, c.isDigit = false ∧ c ≠ '.') :
    ∃ d, readFraction (fraction ++ rest) = .ok (d, rest) ∧ (d = none → fraction = []) := by
  cases h with
  | absent =>
    refine ⟨none, ?_, fun _ => rfl⟩
    unfold Json.readFraction
    split
    · rename_i tail heq
      exact absurd rfl (hrest '.' (by rw [show rest = '.' :: tail from heq]; rfl)).2
    · rfl
  | @point ds hds =>
    refine ⟨some (ds.map digitValue), ?_, fun hnone => by cases hnone⟩
    rw [List.cons_append, Json.readFraction, readDigits_digits hds fun c hc => (hrest c hc).1]
    rfl

/-- **Numbers are read up to their end.** Numbers that are not written as numerals have a minus
sign, a point or an exponent, and no natural value. -/
theorem IsNumber.readParts {cs rest : List Char} (h : IsNumber cs) (hrest : EndsNumber rest) :
    ∃ p, readParts (cs ++ rest) = .ok (p, rest) ∧ (IsNumeral cs ∨ p.natural? = none) := by
  obtain @⟨sign, whole, fraction, exponent, hsign, hwhole, hfraction, hexponent⟩ := h
  have hhead := hexponent.head_append hrest
  obtain ⟨e, hreadExponent, he⟩ := hexponent.readExponent hrest
  obtain ⟨d, hreadFraction, hd⟩ := hfraction.readFraction hhead
  have hends : EndsDigits (fraction ++ (exponent ++ rest)) := by
    cases hfraction with
    | absent => exact fun c hc => (hhead c hc).1
    | point => simp [EndsDigits]
  let parts (negative : Bool) : NumberParts :=
    ⟨negative, whole.map digitValue, d.getD [], d.isSome || e.isSome, e.getD 0⟩
  have hread : ∀ negative, readUnsigned negative (whole ++ (fraction ++ (exponent ++ rest))) =
      .ok (parts negative, rest) := by
    intro negative
    simp only [readUnsigned, readWhole_numeral hwhole hends, hreadFraction, hreadExponent]
    rfl
  simp only [List.append_assoc]
  rcases hsign with rfl | rfl
  · refine ⟨parts false, ?_, ?_⟩
    · obtain ⟨c, tail, rfl, -, hminus, -⟩ := hwhole.isDigits.exists_cons
      rw [List.nil_append, List.cons_append, Json.readParts, ← List.cons_append, hread false]
      exact fun _ heq => hminus (List.cons.inj heq).1
    · by_cases hnone : d = none ∧ e = none
      · rw [hd hnone.1, he hnone.2]
        exact .inl (by simpa using hwhole)
      · have hdecimal : (parts false).isDecimal = true := by
          show (d.isSome || e.isSome) = true
          cases d <;> cases e <;> simp_all
        exact .inr (by simp [NumberParts.natural?, hdecimal])
  · refine ⟨parts true, ?_, .inr rfl⟩
    rw [List.singleton_append, Json.readParts, hread true]

/-! ### The first character of a value -/

theorem IsNumber.exists_cons {cs : List Char} (h : IsNumber cs) :
    ∃ c tail, cs = c :: tail ∧ (c = '-' ∨ c.isDigit = true) := by
  obtain @⟨sign, whole, fraction, exponent, hsign, hwhole, hfraction, hexponent⟩ := h
  rcases hsign with rfl | rfl
  · obtain ⟨c, tail, rfl, hc, -⟩ := hwhole.isDigits.exists_cons
    exact ⟨c, _, rfl, .inr hc⟩
  · exact ⟨'-', _, rfl, .inl rfl⟩

/-- What stands at the start of a number stands at the start of no other value. -/
theorem isDigit_ne {c : Char} (hc : c = '-' ∨ c.isDigit = true) {d : Char}
    (hd : d ≠ '-' ∧ d.isDigit = false) : c ≠ d := by
  rintro rfl
  rcases hc with rfl | hc
  · exact hd.1 rfl
  · rw [hc] at hd
    cases hd.2

theorem IsValue.startsValue {cs : List Char} (h : IsValue cs) : StartsValue cs := by
  cases h with
  | word h =>
    simp only [words, List.mem_cons, List.not_mem_nil, or_false] at h
    rcases h with rfl | rfl | rfl
    all_goals exact ⟨_, _, rfl, by decide, by decide⟩
  | number h =>
    obtain ⟨c, tail, rfl, hc⟩ := h.exists_cons
    refine ⟨c, tail, rfl, ?_, isDigit_ne hc (by decide)⟩
    simp only [isBlank, Bool.or_eq_false_iff, beq_eq_false_iff_ne]
    exact ⟨⟨⟨isDigit_ne hc (by decide), isDigit_ne hc (by decide)⟩, isDigit_ne hc (by decide)⟩,
      isDigit_ne hc (by decide)⟩
  | text h => exact ⟨'"', _, rfl, by decide, by decide⟩
  | list close h => exact startsValue_list _ _
  | object close h => exact startsValue_object _ _

/-! ### Passing over values -/

/-- The characters are passed over wherever they stand, if the fuel is enough. -/
def Skips (cs : List Char) : Prop :=
  ∀ ⦃fuel : ℕ⦄ ⦃gap rest : List Char⦄, cs.length ≤ fuel → IsGap gap → Delimited rest →
    skipFrom fuel (gap ++ (cs ++ rest)) = .ok rest

/-- A value that is neither a list nor an object. -/
theorem skips_scalar {c : Char} {cs : List Char} (hblank : isBlank c = false) (hlist : c ≠ '[')
    (hobject : c ≠ '\x7b') (hskip : ∀ rest, Delimited rest → skipScalar c (cs ++ rest) = .ok rest) :
    Skips (c :: cs) := by
  intro fuel gap rest hfuel hgap hrest
  obtain ⟨fuel, rfl⟩ := Nat.exists_eq_succ_of_ne_zero (by simp at hfuel; omega : fuel ≠ 0)
  rw [List.cons_append, skipFrom, skipBlank_sign hgap hblank]
  split
  · rename_i heq
    cases heq
  · rename_i heq
    exact absurd (List.cons.inj heq).1 hlist
  · rename_i heq
    exact absurd (List.cons.inj heq).1 hobject
  · rename_i heq
    cases heq
    exact hskip rest hrest

theorem readWord_append (word rest : List Char) : readWord word (word ++ rest) = .ok rest := by
  induction word with
  | nil => cases rest <;> rfl
  | cons w word ih => rw [List.cons_append, readWord, if_pos rfl, ih]

theorem IsNumber.skips {cs : List Char} (h : IsNumber cs) : Skips cs := by
  obtain ⟨c, tail, rfl, hc⟩ := h.exists_cons
  obtain ⟨_, _, heq, hblank, -⟩ := (IsValue.number h).startsValue
  cases heq
  refine skips_scalar hblank (isDigit_ne hc (by decide)) (isDigit_ne hc (by decide)) ?_
  intro rest hrest
  obtain ⟨p, hread, -⟩ := h.readParts hrest.endsNumber
  rw [List.cons_append] at hread
  rw [skipScalar, if_neg (isDigit_ne hc (by decide)), if_neg (isDigit_ne hc (by decide)),
    if_neg (isDigit_ne hc (by decide)), if_neg (isDigit_ne hc (by decide)), if_pos hc, skipNumber,
    hread]

/-- White space in front of a value does not matter. -/
theorem skipFrom_skipBlank (fuel : ℕ) (cs : List Char) :
    skipFrom fuel (skipBlank cs) = skipFrom fuel cs := by
  cases fuel with
  | zero => rfl
  | succ fuel => rw [skipFrom, skipFrom, skipBlank_skipBlank]

theorem skipItems_skipBlank (fuel : ℕ) (cs : List Char) :
    skipItems fuel (skipBlank cs) = skipItems fuel cs := by
  cases fuel with
  | zero => rfl
  | succ fuel => rw [skipItems, skipItems, skipFrom_skipBlank]

theorem skipMembers_skipBlank (fuel : ℕ) (cs : List Char) :
    skipMembers fuel (skipBlank cs) = skipMembers fuel cs := by
  cases fuel with
  | zero => rfl
  | succ fuel => rw [skipMembers, skipMembers, skipName, skipName, skipBlank_skipBlank]

/-- One value is passed over inside a list or an object. -/
theorem Item.skipFrom {i : Item} (hi : Skips i.value) {fuel : ℕ} (hfuel : i.text.length ≤ fuel)
    (parts : List (List Char)) (close : Gap) {c : Char} (hc : Delimited [c]) (rest : List Char) :
    Json.skipFrom fuel (i.text ++ partsText false parts close c rest) =
      .ok (i.after.chars ++ partsText false parts close c rest) := by
  have hlength : i.value.length ≤ fuel := by
    simp only [Item.text, List.length_append] at hfuel
    omega
  rw [Item.text, List.append_assoc, List.append_assoc]
  exact hi hlength i.before.isGap (i.after.delimited_parts parts close hc rest)

/-- **The items of a list are passed over**, with its end. -/
theorem skipItems_row {items : List Item} {i : Item} (hitems : ∀ j ∈ i :: items, Skips j.value)
    (close : Gap) (rest : List Char) {fuel : ℕ}
    (hfuel : i.text.length + (row [] false (items.map Item.text)).length < fuel) :
    skipItems fuel (i.text ++ partsText false (items.map Item.text) close ']' rest) = .ok rest := by
  have hbracket : Delimited [']'] := by simp [Delimited]
  induction items generalizing i fuel with
  | nil =>
    obtain ⟨fuel, rfl⟩ := Nat.exists_eq_succ_of_ne_zero (by omega : fuel ≠ 0)
    have hi := hitems i List.mem_cons_self
    rw [skipItems, Item.skipFrom hi (by omega) _ close hbracket rest]
    simp only [List.map_nil, skipBlank_gap_append i.after.isGap,
      skipBlank_parts_nil false close (c := ']') (by decide)]
  | cons j items ih =>
    obtain ⟨fuel, rfl⟩ := Nat.exists_eq_succ_of_ne_zero (by omega : fuel ≠ 0)
    have hi := hitems i List.mem_cons_self
    simp only [List.map_cons, row, comma, Bool.false_eq_true, if_false, List.nil_append,
      List.length_append, List.length_singleton] at hfuel
    rw [skipItems, Item.skipFrom hi (by omega) _ close hbracket rest]
    simp only [List.map_cons, skipBlank_gap_append i.after.isGap, skipBlank_parts_cons]
    exact ih (fun k hk => hitems k (List.mem_cons_of_mem i hk)) (by omega)

theorem Member.text_append (m : Member) (rest : List Char) :
    m.text ++ rest = m.before.chars ++
      '"' :: (m.label ++ '"' :: (m.colon.chars ++ ':' :: (m.item.text ++ rest))) := by
  simp [Member.text]

theorem Gap.readColon (g : Gap) (rest : List Char) :
    Json.readColon (g.chars ++ ':' :: rest) = .ok rest := by
  simp only [Json.readColon, skipBlank_sign g.isGap (c := ':') (by decide)]

/-- The name of a member is passed over. -/
theorem Member.skipName (m : Member) (rest : List Char) :
    Json.skipName (m.text ++ rest) = .ok (m.item.text ++ rest) := by
  rw [Member.text_append]
  simp only [Json.skipName, skipBlank_sign m.before.isGap (c := '"') (by decide),
    skipString_body m.isBody]
  exact m.colon.readColon _

/-- **The members of an object are passed over**, with its end. -/
theorem skipMembers_row {members : List Member} {m : Member}
    (hmembers : ∀ k ∈ m :: members, Skips k.item.value) (close : Gap) (rest : List Char) {fuel : ℕ}
    (hfuel : m.text.length + (row [] false (members.map Member.text)).length < fuel) :
    skipMembers fuel (m.text ++ partsText false (members.map Member.text) close '\x7d' rest) =
      .ok rest := by
  have hbrace : Delimited ['\x7d'] := by simp [Delimited]
  have hlength : ∀ k : Member, k.item.text.length ≤ k.text.length := by
    intro k
    simp only [Member.text, List.length_append, List.length_cons]
    omega
  have hm := hmembers m List.mem_cons_self
  have hitem := hlength m
  induction members generalizing m fuel with
  | nil =>
    obtain ⟨fuel, rfl⟩ := Nat.exists_eq_succ_of_ne_zero (by omega : fuel ≠ 0)
    rw [skipMembers, Member.skipName, Except.bind, Item.skipFrom hm (by omega) _ close hbrace rest]
    simp only [List.map_nil, skipBlank_gap_append m.item.after.isGap,
      skipBlank_parts_nil false close (c := '\x7d') (by decide)]
  | cons k members ih =>
    obtain ⟨fuel, rfl⟩ := Nat.exists_eq_succ_of_ne_zero (by omega : fuel ≠ 0)
    simp only [List.map_cons, row, comma, Bool.false_eq_true, if_false, List.nil_append,
      List.length_append, List.length_singleton] at hfuel
    rw [skipMembers, Member.skipName, Except.bind, Item.skipFrom hm (by omega) _ close hbrace rest]
    simp only [List.map_cons, skipBlank_gap_append m.item.after.isGap, skipBlank_parts_cons]
    exact ih (fun j hj => hmembers j (List.mem_cons_of_mem m hj)) (by omega)
      (hmembers k (by simp)) (hlength k)

/-- A list that does not end at once has items. -/
theorem skipFrom_list {gap cs tail : List Char} {c : Char} (hgap : IsGap gap)
    (hcs : skipBlank cs = c :: tail) (hc : c ≠ ']') (fuel : ℕ) :
    skipFrom (fuel + 1) (gap ++ '[' :: cs) = skipItems fuel cs := by
  rw [skipFrom, skipBlank_sign hgap (by decide), ← skipItems_skipBlank fuel cs]
  simp only [hcs]
  split
  · rename_i heq
    cases heq
  · rename_i heq
    exact absurd (List.cons.inj heq).1 hc
  · rfl

/-- An object that does not end at once has members. -/
theorem skipFrom_object {gap cs tail : List Char} {c : Char} (hgap : IsGap gap)
    (hcs : skipBlank cs = c :: tail) (hc : c ≠ '\x7d') (fuel : ℕ) :
    skipFrom (fuel + 1) (gap ++ '\x7b' :: cs) = skipMembers fuel cs := by
  rw [skipFrom, skipBlank_sign hgap (by decide), ← skipMembers_skipBlank fuel cs]
  simp only [hcs]
  split
  · rename_i heq
    cases heq
  · rename_i heq
    exact absurd (List.cons.inj heq).1 hc
  · rfl

/-- The first item of a list starts with its value. -/
theorem Item.skipBlank_text {i : Item} (hi : StartsValue i.value) (rest : List Char) :
    skipBlank (i.text ++ rest) = i.value ++ (i.after.chars ++ rest) := by
  rw [Item.text, List.append_assoc, List.append_assoc]
  exact skipBlank_append i.before.isGap hi _

/-- The first member of an object starts with its name. -/
theorem Member.skipBlank_text (m : Member) (rest : List Char) :
    skipBlank (m.text ++ rest) =
      '"' :: (m.label ++ '"' :: (m.colon.chars ++ ':' :: (m.item.text ++ rest))) := by
  rw [Member.text_append]
  exact skipBlank_sign m.before.isGap (by decide) _

/-- **Lists are passed over** if their items are. -/
theorem skips_list (close : Gap) {items : List Item} (hitems : ∀ i ∈ items, Skips i.value)
    (hvalues : ∀ i ∈ items, StartsValue i.value) :
    Skips (listText close.closing (items.map Item.text)) := by
  intro fuel gap rest hfuel hgap hrest
  simp only [listText, Gap.closing, List.length_cons, List.length_append] at hfuel
  obtain ⟨fuel, rfl⟩ := Nat.exists_eq_succ_of_ne_zero (by omega : fuel ≠ 0)
  rw [listText_append]
  cases items with
  | nil =>
    rw [skipFrom, skipBlank_sign hgap (by decide)]
    simp only [List.map_nil, skipBlank_parts_nil true close (c := ']') (by decide)]
  | cons i items =>
    simp only [List.map_cons, row, comma, if_true, List.nil_append, List.length_append] at hfuel
    obtain ⟨c, cs, hvalue, -, hc⟩ := hvalues i List.mem_cons_self
    have hskip := Item.skipBlank_text (hvalues i List.mem_cons_self)
      (partsText false (items.map Item.text) close ']' rest)
    rw [hvalue] at hskip
    rw [List.map_cons, partsText_cons, comma, if_pos rfl, List.nil_append,
      skipFrom_list hgap hskip hc]
    exact skipItems_row hitems close rest (by omega)

/-- **Objects are passed over** if the values in them are. -/
theorem skips_object (close : Gap) {members : List Member}
    (hmembers : ∀ m ∈ members, Skips m.item.value) :
    Skips (objectText close.closing (members.map Member.text)) := by
  intro fuel gap rest hfuel hgap hrest
  simp only [objectText, Gap.closing, List.length_cons, List.length_append] at hfuel
  obtain ⟨fuel, rfl⟩ := Nat.exists_eq_succ_of_ne_zero (by omega : fuel ≠ 0)
  rw [objectText_append]
  cases members with
  | nil =>
    rw [skipFrom, skipBlank_sign hgap (by decide)]
    simp only [List.map_nil, skipBlank_parts_nil true close (c := '\x7d') (by decide)]
  | cons m members =>
    simp only [List.map_cons, row, comma, if_true, List.nil_append, List.length_append] at hfuel
    rw [List.map_cons, partsText_cons, comma, if_pos rfl, List.nil_append,
      skipFrom_object hgap (m.skipBlank_text _) (by decide)]
    exact skipMembers_row hmembers close rest (by omega)

/-- Values are passed over, whatever they hold. -/
theorem IsValue.skips {cs : List Char} (h : IsValue cs) : Skips cs := by
  induction h with
  | word h =>
    simp only [words, List.mem_cons, List.not_mem_nil, or_false] at h
    rcases h with rfl | rfl | rfl
    all_goals
      refine skips_scalar (by decide) (by decide) (by decide) fun rest _ => ?_
      exact readWord_append _ rest
  | number h => exact h.skips
  | @text body h =>
    refine skips_scalar (by decide) (by decide) (by decide) fun rest _ => ?_
    rw [skipScalar, if_pos rfl, List.append_assoc]
    exact skipString_body h rest
  | list close h ih => exact skips_list close ih fun i hi => (h i hi).startsValue
  | object close _ ih => exact skips_object close ih

/-- **Any well-formed value is passed over**, up to what follows it. -/
theorem skipValue_value {gap cs rest : List Char} (h : IsValue cs) (hgap : IsGap gap)
    (hrest : Delimited rest) : skipValue (gap ++ (cs ++ rest)) = .ok rest := by
  refine h.skips ?_ hgap hrest
  simp only [List.length_append]
  omega

end BannerMatch.Json
