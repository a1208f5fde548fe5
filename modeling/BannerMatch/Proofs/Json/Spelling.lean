import BannerMatch.Proofs.Json.Strings
import Mathlib.Tactic

/-!
# What stands between quotation marks

`IsBody` says which characters may stand between the quotation marks of a string, and `Spells` which
text they spell. A character may stand for itself or be written as an escape, so a text has many
spellings; a body has at most one text, and none if it holds a surrogate without its partner.

Strings that do not matter are passed over as bodies (`skipString_body`); all others are read as
what they spell and refused if they spell nothing (`readString_body`).
-/

namespace BannerMatch.Json

/-! ### Bodies and their texts -/

/-- Four hexadecimal digits and their number. -/
inductive SpellsCode : List Char → ℕ → Prop
  | digits {a b c d : Char} {w x y z : ℕ} (ha : hexValue? a = some w) (hb : hexValue? b = some x)
      (hc : hexValue? c = some y) (hd : hexValue? d = some z) :
      SpellsCode [a, b, c, d] (((16 * w + x) * 16 + y) * 16 + z)

/-- The first half of a code point beyond four digits. -/
abbrev IsLeading (n : ℕ) : Prop := 0xD800 ≤ n ∧ n ≤ 0xDBFF

/-- The second half of a code point beyond four digits. -/
abbrev IsTrailing (n : ℕ) : Prop := 0xDC00 ≤ n ∧ n ≤ 0xDFFF

/-- The code point of two halves. -/
def ofHalves (m n : ℕ) : Char := Char.ofNat (0x10000 + (m - 0xD800) * 0x400 + (n - 0xDC00))

/-- What follows a backslash, and the character that is written so. -/
inductive SpellsEscape : List Char → Char → Prop
  | short {c e : Char} (hc : shortEscape? c = some e) : SpellsEscape [c] e
  | code {digits : List Char} {n : ℕ} (hn : SpellsCode digits n) (hleading : ¬ IsLeading n)
      (htrailing : ¬ IsTrailing n) : SpellsEscape ('u' :: digits) (Char.ofNat n)
  | pair {first second : List Char} {m n : ℕ} (hm : SpellsCode first m) (hleading : IsLeading m)
      (hn : SpellsCode second n) (htrailing : IsTrailing n) :
      SpellsEscape ('u' :: (first ++ '\\' :: 'u' :: second)) (ofHalves m n)

/-- A character that stands for itself. -/
abbrev IsPlain (c : Char) : Prop := c ≠ '"' ∧ c ≠ '\\' ∧ 0x20 ≤ c.toNat

/-- What may stand between quotation marks. -/
inductive IsBody : List Char → Prop
  | nil : IsBody []
  | plain {c : Char} {body : List Char} (hc : IsPlain c) (h : IsBody body) : IsBody (c :: body)
  | short {c e : Char} {body : List Char} (hc : shortEscape? c = some e) (h : IsBody body) :
      IsBody ('\\' :: c :: body)
  | code {digits body : List Char} {n : ℕ} (hn : SpellsCode digits n) (h : IsBody body) :
      IsBody ('\\' :: 'u' :: (digits ++ body))

/-- What stands between quotation marks, and the text that it spells. -/
inductive Spells : List Char → List Char → Prop
  | nil : Spells [] []
  | plain {c : Char} {body text : List Char} (hc : IsPlain c) (h : Spells body text) :
      Spells (c :: body) (c :: text)
  | escape {escape body text : List Char} {c : Char} (hc : SpellsEscape escape c)
      (h : Spells body text) : Spells ('\\' :: (escape ++ body)) (c :: text)

/-- Only bodies spell texts. -/
theorem Spells.isBody {body text : List Char} (h : Spells body text) : IsBody body := by
  induction h with
  | nil => exact .nil
  | plain hc _ ih => exact .plain hc ih
  | escape hc _ ih =>
    cases hc with
    | short hc => exact .short hc ih
    | code hn _ _ => exact .code hn ih
    | pair hm _ hn _ =>
      rw [List.cons_append, List.append_assoc]
      exact .code hm (.code hn ih)

/-- What is made of a result comes from the result. -/
theorem map_eq_ok_iff {ε α β : Type} {result : Except ε α} {f : α → β} {b : β} :
    result.map f = .ok b ↔ ∃ a, result = .ok a ∧ f a = b := by
  cases result with
  | error e => simp [Except.map]
  | ok a => simp [Except.map]

/-! ### Digits and escapes -/

theorem readHex_iff {cs rest : List Char} {n : ℕ} :
    readHex cs = .ok (n, rest) ↔ ∃ digits, SpellsCode digits n ∧ cs = digits ++ rest := by
  constructor
  · intro h
    unfold readHex at h
    split at h
    · cases h
    split at h
    · rename_i a b c d tail _
      split at h
      · rename_i ha hb hc hd
        cases h
        exact ⟨[a, b, c, d], .digits ha hb hc hd, rfl⟩
      · cases h
    · cases h
  · rintro ⟨digits, hn, rfl⟩
    cases hn with
    | @digits a b c d w x y z ha hb hc hd =>
      -- there are at least as many bytes as characters
      have hlong : ¬ Text.byteLength ((a :: b :: c :: d :: rest).take 4) < 4 := by
        have ha := a.utf8Size_pos
        have hb := b.utf8Size_pos
        have hc := c.utf8Size_pos
        have hd := d.utf8Size_pos
        simp only [List.take_succ_cons, List.take_zero, Text.byteLength, List.foldr_cons,
          List.foldr_nil]
        omega
      show readHex (a :: b :: c :: d :: rest) = _
      rw [readHex, if_neg hlong]
      simp only [ha, hb, hc, hd]

theorem readTrailing_iff {m : ℕ} {cs rest : List Char} {c : Char} :
    readTrailing m cs = .ok (c, rest) ↔
      ∃ digits n, SpellsCode digits n ∧ IsTrailing n ∧ cs = '\\' :: 'u' :: (digits ++ rest) ∧
        c = ofHalves m n := by
  constructor
  · intro h
    unfold readTrailing at h
    split at h
    · cases h
    · cases h
    · split at h
      · cases h
      · rename_i n tail hread
        obtain ⟨digits, hn, rfl⟩ := readHex_iff.mp hread
        split at h
        · rename_i htrailing
          obtain ⟨hc, rfl⟩ := Prod.mk.inj (Except.ok.inj h)
          exact ⟨digits, n, hn, htrailing, rfl, hc.symm⟩
        · cases h
    · cases h
  · rintro ⟨digits, n, hn, htrailing, rfl, hc⟩
    rw [readTrailing, readHex_iff.mpr ⟨digits, hn, rfl⟩, hc]
    exact if_pos htrailing

/-- **Escapes are read as what they spell.** -/
theorem readEscape_iff {cs rest : List Char} {c : Char} :
    readEscape cs = .ok (c, rest) ↔ ∃ escape, SpellsEscape escape c ∧ cs = escape ++ rest := by
  constructor
  · intro h
    cases cs with
    | nil => cases h
    | cons b cs =>
      rw [readEscape] at h
      by_cases hu : b = 'u'
      · subst hu
        rw [if_pos rfl] at h
        split at h
        · cases h
        rename_i n tail hread
        obtain ⟨digits, hn, rfl⟩ := readHex_iff.mp hread
        split at h
        · rename_i hleading
          obtain ⟨second, m, hm, htrailing, rfl, hc⟩ := readTrailing_iff.mp h
          rw [hc]
          exact ⟨_, .pair hn hleading hm htrailing, by simp⟩
        · rename_i hleading
          split at h
          · cases h
          · rename_i htrailing
            cases h
            exact ⟨_, .code hn hleading htrailing, by simp⟩
      · rw [if_neg hu] at h
        split at h
        · rename_i hshort
          cases h
          exact ⟨[b], .short hshort, rfl⟩
        · cases h
  · rintro ⟨escape, hc, rfl⟩
    cases hc with
    | @short b _ hb =>
      have hu : b ≠ 'u' := by
        rintro rfl
        cases hb
      exact readEscape_short hu hb rest
    | code hn hleading htrailing =>
      rw [List.cons_append, readEscape, if_pos rfl, readHex_iff.mpr ⟨_, hn, rfl⟩]
      simp only
      rw [if_neg hleading, if_neg htrailing]
    | pair hm hleading hn htrailing =>
      rw [List.cons_append, List.append_assoc, readEscape, if_pos rfl,
        readHex_iff.mpr ⟨_, hm, rfl⟩]
      simp only
      rw [if_pos hleading]
      exact readTrailing_iff.mpr ⟨_, _, hn, htrailing, rfl, rfl⟩

/-! ### Strings -/

/-- The characters that a string is read as, and where it ends, if the fuel is enough. -/
theorem Spells.readChars {body text : List Char} (h : Spells body text) (rest : List Char)
    {fuel : ℕ} (hfuel : body.length < fuel) :
    readChars fuel (body ++ '"' :: rest) = .ok (text, rest) := by
  induction h generalizing fuel with
  | nil =>
    obtain ⟨fuel, rfl⟩ := Nat.exists_eq_succ_of_ne_zero (by omega : fuel ≠ 0)
    rfl
  | @plain c body text hc _ ih =>
    obtain ⟨fuel, rfl⟩ := Nat.exists_eq_succ_of_ne_zero (by omega : fuel ≠ 0)
    rw [List.length_cons] at hfuel
    rw [List.cons_append, Json.readChars, if_neg hc.1, if_neg hc.2.1,
      if_neg (Nat.not_lt.mpr hc.2.2), ih (by omega)]
    rfl
  | @escape escape body text c hc _ ih =>
    obtain ⟨fuel, rfl⟩ := Nat.exists_eq_succ_of_ne_zero (by omega : fuel ≠ 0)
    have hread : readEscape (escape ++ (body ++ '"' :: rest)) = .ok (c, body ++ '"' :: rest) :=
      readEscape_iff.mpr ⟨escape, hc, rfl⟩
    rw [List.length_cons, List.length_append] at hfuel
    rw [List.cons_append, List.append_assoc, ← List.cons_append, readChars_escape hread,
      ih (by omega)]
    rfl

/-- What is read of a string is spelled in front of its closing quotation mark. -/
theorem exists_spells_of_readChars {fuel : ℕ} {cs text rest : List Char}
    (h : readChars fuel cs = .ok (text, rest)) :
    ∃ body, Spells body text ∧ cs = body ++ '"' :: rest := by
  induction fuel generalizing cs text with
  | zero => cases cs <;> cases h
  | succ fuel ih =>
    cases cs with
    | nil => cases h
    | cons c cs =>
      -- every character but the closing mark is put before what is read of the rest
      have hcons : ∀ {e : Char} {tail : List Char},
          (readChars fuel tail).map (fun p => (e :: p.1, p.2)) = .ok (text, rest) →
          ∃ body more, Spells body more ∧ tail = body ++ '"' :: rest ∧ text = e :: more := by
        intro e tail hmap
        obtain ⟨⟨more, left⟩, htail, heq⟩ := map_eq_ok_iff.mp hmap
        cases heq
        obtain ⟨body, hspells, rfl⟩ := ih htail
        exact ⟨body, more, hspells, rfl, rfl⟩
      rw [readChars] at h
      split at h
      · rename_i hquote
        cases h
        exact ⟨[], .nil, by rw [hquote]; rfl⟩
      rename_i hquote
      split at h
      · rename_i hbackslash
        subst hbackslash
        split at h
        · cases h
        rename_i hread
        obtain ⟨escape, hc, rfl⟩ := readEscape_iff.mp hread
        obtain ⟨body, more, hspells, rfl, rfl⟩ := hcons h
        exact ⟨'\\' :: (escape ++ body), .escape hc hspells, by simp⟩
      rename_i hbackslash
      split at h
      · cases h
      rename_i hcontrol
      obtain ⟨body, more, hspells, rfl, rfl⟩ := hcons h
      exact ⟨c :: body, .plain ⟨hquote, hbackslash, Nat.not_lt.mp hcontrol⟩ hspells, rfl⟩

theorem IsBody.skipChars {body : List Char} (h : IsBody body) (rest : List Char) {fuel : ℕ}
    (hfuel : body.length < fuel) : skipChars fuel (body ++ '"' :: rest) = .ok rest := by
  induction h generalizing fuel with
  | nil =>
    obtain ⟨fuel, rfl⟩ := Nat.exists_eq_succ_of_ne_zero (by omega : fuel ≠ 0)
    rfl
  | @plain c body hc _ ih =>
    obtain ⟨fuel, rfl⟩ := Nat.exists_eq_succ_of_ne_zero (by omega : fuel ≠ 0)
    rw [List.length_cons] at hfuel
    rw [List.cons_append, Json.skipChars, if_neg hc.1, if_neg hc.2.1,
      if_neg (Nat.not_lt.mpr hc.2.2), ih (by omega)]
  | @short c e body hc _ ih =>
    obtain ⟨fuel, rfl⟩ := Nat.exists_eq_succ_of_ne_zero (by omega : fuel ≠ 0)
    have hu : c ≠ 'u' := by
      rintro rfl
      cases hc
    rw [List.length_cons, List.length_cons] at hfuel
    rw [List.cons_append, List.cons_append, Json.skipChars, if_neg (by decide), if_pos rfl,
      skipEscape, if_neg hu, hc]
    exact ih (by omega)
  | @code digits body n hn _ ih =>
    obtain ⟨fuel, rfl⟩ := Nat.exists_eq_succ_of_ne_zero (by omega : fuel ≠ 0)
    have hread : readHex (digits ++ (body ++ '"' :: rest)) = .ok (n, body ++ '"' :: rest) :=
      readHex_iff.mpr ⟨digits, hn, rfl⟩
    rw [List.length_cons, List.length_cons, List.length_append] at hfuel
    rw [List.cons_append, List.cons_append, List.append_assoc, Json.skipChars,
      if_neg (by decide), if_pos rfl, skipEscape, if_pos rfl, hread]
    exact ih (by omega)

theorem length_lt_body (body rest : List Char) :
    body.length < (body ++ '"' :: rest).length := by
  rw [List.length_append, List.length_cons]
  omega

/-- **Any body is passed over**, and what follows its quotation mark is left. -/
theorem skipString_body {body : List Char} (h : IsBody body) (rest : List Char) :
    skipString (body ++ '"' :: rest) = .ok rest :=
  h.skipChars rest (length_lt_body body rest)

/-- The quotation mark at the end of a body is the first one that is not part of an escape. -/
theorem IsBody.append_quote_inj {body other rest tail : List Char} (h : IsBody body)
    (hother : IsBody other) (heq : body ++ '"' :: rest = other ++ '"' :: tail) :
    body = other ∧ rest = tail := by
  have hskip := skipString_body h rest
  rw [heq, skipString_body hother tail] at hskip
  cases hskip
  exact ⟨List.append_cancel_right heq, rfl⟩

/-- **A string is read as the text that it spells**, and refused if it spells none. -/
theorem readString_body {body : List Char} (h : IsBody body) (rest : List Char)
    {text tail : List Char} :
    readString (body ++ '"' :: rest) = .ok (text, tail) ↔ tail = rest ∧ Spells body text := by
  constructor
  · intro hread
    obtain ⟨other, hspells, heq⟩ := exists_spells_of_readChars hread
    obtain ⟨rfl, rfl⟩ := h.append_quote_inj hspells.isBody heq
    exact ⟨rfl, hspells⟩
  · rintro ⟨rfl, hspells⟩
    exact hspells.readChars tail (length_lt_body body tail)

/-- Whether a body spells a text is found out by reading it. -/
theorem spells_iff_readString {body text : List Char} :
    Spells body text ↔ readString (body ++ ['"']) = .ok (text, []) := by
  constructor
  · intro h
    exact h.readChars [] (length_lt_body body [])
  · intro hread
    obtain ⟨other, hspells, heq⟩ := exists_spells_of_readChars hread
    rwa [List.append_cancel_right heq]

instance (body text : List Char) : Decidable (Spells body text) :=
  decidable_of_iff _ spells_iff_readString.symm

/-- A body spells one text at most. -/
theorem Spells.unique {body text other : List Char} (h : Spells body text)
    (hother : Spells body other) : text = other := by
  have hread := (readString_body h.isBody []).mpr ⟨rfl, h⟩
  rw [(readString_body h.isBody []).mpr ⟨rfl, hother⟩] at hread
  cases hread
  rfl

/-- Writers spell texts. -/
theorem spells_flatMap_escapeChar (cs : List Char) : Spells (cs.flatMap escapeChar) cs :=
  spells_iff_readString.mpr (readString_quote cs [])

end BannerMatch.Json
