import BannerMatch.Json.Reader
import BannerMatch.Proofs.Json.Strings

/-!
# Reading written values back

`ReadsBack reader cs a` says that the characters `cs` are read as `a` wherever a writer puts them:
after any gap, and in front of a comma, a closing bracket, white space or the end of the text. It is
shown here for texts and for numbers below `256`.
-/

namespace BannerMatch.Json

/-! ### Gaps and ends of values -/

/-- White space between parts of a text. -/
def IsGap (cs : List Char) : Prop := ∀ c ∈ cs, isBlank c = true

/-- What may follow a value. -/
def Delimited (cs : List Char) : Prop :=
  ∀ c ∈ cs.head?, isBlank c = true ∨ c = ',' ∨ c = ']' ∨ c = '\x7d'

/-- What a part of a text starts with: no white space and no closing bracket of a list. -/
def StartsValue (cs : List Char) : Prop :=
  ∃ c rest, cs = c :: rest ∧ isBlank c = false ∧ c ≠ ']'

theorem isGap_nil : IsGap [] := by
  simp [IsGap]

theorem delimited_comma (cs : List Char) : Delimited (',' :: cs) := by
  simp [Delimited]

theorem delimited_gap {gap : List Char} (hgap : IsGap gap) {c : Char} (hc : Delimited [c])
    (rest : List Char) : Delimited (gap ++ c :: rest) := by
  cases gap with
  | nil => simpa [Delimited] using hc
  | cons b gap =>
    have hb := hgap b List.mem_cons_self
    simp [Delimited, hb]

theorem skipBlank_append {gap cs : List Char} (hgap : IsGap gap) (hcs : StartsValue cs)
    (rest : List Char) : skipBlank (gap ++ (cs ++ rest)) = cs ++ rest := by
  obtain ⟨c, cs, rfl, hc, -⟩ := hcs
  rw [skipBlank, List.dropWhile_append_of_pos hgap, List.cons_append,
    List.dropWhile_cons_of_neg (by simp [hc])]

/-- A single sign after a gap. -/
theorem skipBlank_sign {gap : List Char} (hgap : IsGap gap) {c : Char} (hc : isBlank c = false)
    (rest : List Char) : skipBlank (gap ++ c :: rest) = c :: rest := by
  rw [skipBlank, List.dropWhile_append_of_pos hgap, List.dropWhile_cons_of_neg (by simp [hc])]

/-- The characters are read as the value, wherever they stand. -/
structure ReadsBack {α : Type} (reader : Reader α) (cs : List Char) (a : α) : Prop where
  starts : StartsValue cs
  reads : ∀ {gap rest : List Char}, IsGap gap → Delimited rest →
    reader (gap ++ (cs ++ rest)) = .ok (a, rest)

/-- The characters show by themselves where the value ends, so anything may follow them. -/
structure ReadsToEnd {α : Type} (reader : Reader α) (cs : List Char) (a : α) : Prop where
  starts : StartsValue cs
  reads : ∀ {gap : List Char}, IsGap gap → ∀ rest : List Char,
    reader (gap ++ (cs ++ rest)) = .ok (a, rest)

theorem ReadsToEnd.readsBack {α : Type} {reader : Reader α} {cs : List Char} {a : α}
    (h : ReadsToEnd reader cs a) : ReadsBack reader cs a where
  starts := h.starts
  reads hgap _ := h.reads hgap _

/-- A value is still read back when something is made of it. -/
theorem ReadsBack.map {α β : Type} {reader : Reader α} {cs : List Char} {a : α}
    (h : ReadsBack reader cs a) (f : α → β) :
    ReadsBack (fun cs => (reader cs).map fun p => (f p.1, p.2)) cs (f a) where
  starts := h.starts
  reads hgap hrest := by rw [h.reads hgap hrest]; rfl

/-! ### Texts -/

theorem startsValue_quote (cs : List Char) : StartsValue (quote cs) :=
  ⟨'"', _, rfl, by decide, by decide⟩

theorem quote_append (cs rest : List Char) :
    quote cs ++ rest = '"' :: (cs.flatMap escapeChar ++ '"' :: rest) := by
  simp [quote]

/-- **A text is read back.** -/
theorem readsBack_text (s : String) : ReadsBack readTextValue (quote s.toList) s where
  starts := startsValue_quote _
  reads hgap _ := by
    rw [readTextValue, skipBlank_append hgap (startsValue_quote _), quote_append]
    simp only [readString_quote]
    rw [Except.map, String.ofList_toList]

/-! ### Numbers -/

/-- What cannot be part of a number. -/
def EndsNumber (cs : List Char) : Prop :=
  ∀ c ∈ cs.head?, c.isDigit = false ∧ c ≠ '.' ∧ c ≠ 'e' ∧ c ≠ 'E'

theorem Delimited.endsNumber {cs : List Char} (h : Delimited cs) : EndsNumber cs := by
  intro c hc
  rcases h c hc with hblank | rfl | rfl | rfl
  · simp only [isBlank, Bool.or_eq_true, beq_iff_eq] at hblank
    rcases hblank with ((rfl | rfl) | rfl) | rfl <;> decide
  all_goals decide

/-- Digits without a superfluous zero. -/
structure IsNumeral (ds : List Char) : Prop where
  ne_nil : ds ≠ []
  digits : ∀ c ∈ ds, c.isDigit = true
  zero : ds.head? = some '0' → ds = ['0']

theorem IsNumeral.startsValue {ds : List Char} (hds : IsNumeral ds) : StartsValue ds := by
  obtain ⟨d, tail, rfl⟩ := List.exists_cons_of_ne_nil hds.ne_nil
  have hd := hds.digits d List.mem_cons_self
  refine ⟨d, tail, rfl, ?_, ?_⟩
  · rw [← Bool.not_eq_true]
    intro hblank
    simp only [isBlank, Bool.or_eq_true, beq_iff_eq] at hblank
    rcases hblank with ((rfl | rfl) | rfl) | rfl <;> exact absurd hd (by decide)
  · rintro rfl
    exact absurd hd (by decide)

/-- What does not go on with a digit. -/
def EndsDigits (cs : List Char) : Prop := ∀ c ∈ cs.head?, c.isDigit = false

theorem EndsNumber.endsDigits {cs : List Char} (h : EndsNumber cs) : EndsDigits cs :=
  fun c hc => (h c hc).1

theorem takeWhile_digits {ds rest : List Char} (hds : ∀ c ∈ ds, c.isDigit = true)
    (hrest : EndsDigits rest) : (ds ++ rest).takeWhile Char.isDigit = ds := by
  rw [List.takeWhile_append_of_pos hds]
  cases rest with
  | nil => simp
  | cons c rest =>
    rw [List.takeWhile_cons_of_neg (by simp [hrest c rfl]), List.append_nil]

theorem dropWhile_digits {ds rest : List Char} (hds : ∀ c ∈ ds, c.isDigit = true)
    (hrest : EndsDigits rest) : (ds ++ rest).dropWhile Char.isDigit = rest := by
  rw [List.dropWhile_append_of_pos hds]
  cases rest with
  | nil => rfl
  | cons c rest => rw [List.dropWhile_cons_of_neg (by simp [hrest c rfl])]

theorem readWhole_numeral {ds rest : List Char} (hds : IsNumeral ds) (hrest : EndsDigits rest) :
    readWhole (ds ++ rest) = .ok (ds.map digitValue, rest) := by
  obtain ⟨d, tail, rfl⟩ := List.exists_cons_of_ne_nil hds.ne_nil
  have hd : d.isDigit = true := hds.digits d List.mem_cons_self
  rw [List.cons_append, readWhole]
  split
  · rename_i hzero
    subst hzero
    have htail : tail = [] := by simpa using hds.zero rfl
    subst htail
    have hno : rest.head?.any Char.isDigit = false := by
      cases rest with
      | nil => rfl
      | cons c rest => simpa using hrest c rfl
    rw [List.nil_append, hno, if_neg Bool.false_ne_true]
    rfl
  · rw [leadingDigits, afterDigits, ← List.cons_append,
      takeWhile_digits hds.digits hrest, dropWhile_digits hds.digits hrest]

theorem readFraction_ends {rest : List Char} (hrest : EndsNumber rest) :
    readFraction rest = .ok (none, rest) := by
  unfold readFraction
  split
  · exact absurd rfl (hrest _ rfl).2.1
  · rfl

theorem readExponent_ends {rest : List Char} (hrest : EndsNumber rest) :
    readExponent rest = .ok (none, rest) := by
  unfold readExponent
  split
  · exact absurd rfl (hrest _ rfl).2.2.1
  · exact absurd rfl (hrest _ rfl).2.2.2
  · rfl

/-- The parts of a natural number. -/
theorem readParts_numeral {ds rest : List Char} (hds : IsNumeral ds) (hrest : EndsNumber rest) :
    readParts (ds ++ rest) = .ok (⟨false, ds.map digitValue, [], false, 0⟩, rest) := by
  have hunsigned : readUnsigned false (ds ++ rest) =
      .ok (⟨false, ds.map digitValue, [], false, 0⟩, rest) := by
    simp only [readUnsigned, readWhole_numeral hds hrest.endsDigits, readFraction_ends hrest,
      readExponent_ends hrest]
    rfl
  unfold readParts
  split
  · -- a minus sign is no digit
    rename_i heq
    obtain ⟨d, tail, rfl⟩ := List.exists_cons_of_ne_nil hds.ne_nil
    rw [List.cons_append] at heq
    have hminus : d = '-' := (List.cons.inj heq).1
    have hd := hds.digits d List.mem_cons_self
    rw [hminus] at hd
    exact absurd hd (by decide)
  · exact hunsigned

/-- What is written for a number below `256`. -/
theorem isNumeral_byte (n : UInt8) : IsNumeral (toString n).toList := by
  have hall : ∀ k < 256, (toString k.toUInt8).toList ≠ [] ∧
      (toString k.toUInt8).toList.all Char.isDigit = true ∧
      ((toString k.toUInt8).toList.head? = some '0' → (toString k.toUInt8).toList = ['0']) := by
    decide +kernel
  have hn := hall n.toNat n.toNat_lt
  rw [show n.toNat.toUInt8 = n from UInt8.ofNat_toNat] at hn
  exact ⟨hn.1, List.all_eq_true.mp hn.2.1, hn.2.2⟩

theorem natural?_byte (n : UInt8) :
    let p : NumberParts := ⟨false, (toString n).toList.map digitValue, [], false, 0⟩
    p.isTooLarge = false ∧ p.natural? = some n.toNat := by
  have hall : ∀ k < 256,
      let p : NumberParts := ⟨false, (toString k.toUInt8).toList.map digitValue, [], false, 0⟩
      p.isTooLarge = false ∧ p.natural? = some k := by
    decide +kernel
  have hn := hall n.toNat n.toNat_lt
  rwa [show n.toNat.toUInt8 = n from UInt8.ofNat_toNat] at hn

theorem readNumber_byte (n : UInt8) {rest : List Char} (hrest : EndsNumber rest) :
    readNumber ((toString n).toList ++ rest) = .ok (some n.toNat, rest) := by
  obtain ⟨hsize, hvalue⟩ := natural?_byte n
  simp only [readNumber, readParts_numeral (isNumeral_byte n) hrest, hsize, hvalue]
  rfl

/-- **A number below `256` is read back.** -/
theorem readsBack_byte (n : UInt8) : ReadsBack readByteValue (toString n).toList n where
  starts := (isNumeral_byte n).startsValue
  reads {gap rest} hgap hrest := by
    have hdigit : ((toString n).toList ++ rest).head?.any
        (fun c => c == '-' || c.isDigit) = true := by
      obtain ⟨d, tail, hds⟩ := List.exists_cons_of_ne_nil (isNumeral_byte n).ne_nil
      have hd := (isNumeral_byte n).digits d (by rw [hds]; exact List.mem_cons_self)
      simp [hds, hd]
    simp only [readByteValue, skipBlank_append hgap (isNumeral_byte n).startsValue, hdigit,
      readNumber_byte n hrest.endsNumber]
    rw [if_pos trivial, if_pos n.toNat_lt, show n.toNat.toUInt8 = n from UInt8.ofNat_toNat]

end BannerMatch.Json
