import BannerMatch.Json.Strings
import BannerMatch.Json.Value

/-!
# Reading written strings back

`readString_quote`: a text that is written as a string is read back, whatever follows it. The four
digits of an escaped control character are read in `readHex_hexDigits`; all other characters that
are escaped have a letter of their own.
-/

namespace BannerMatch.Json

/-! ### Hexadecimal digits -/

theorem hexValue?_hexDigit {n : Nat} (hn : n < 16) : hexValue? (hexDigit n) = some n := by
  revert hn n
  decide

theorem utf8Size_hexDigit {n : Nat} (hn : n < 16) : (hexDigit n).utf8Size = 1 := by
  revert hn n
  decide

/-- The four digits that are written for a control character. -/
theorem readHex_hexDigits {n : Nat} (hn : n < 0x100) (rest : List Char) :
    readHex ('0' :: '0' :: hexDigit (n / 16) :: hexDigit (n % 16) :: rest) = .ok (n, rest) := by
  have hlong : ¬ Text.byteLength (List.take 4
      ('0' :: '0' :: hexDigit (n / 16) :: hexDigit (n % 16) :: rest)) < 4 := by
    have hhigh := utf8Size_hexDigit (n := n / 16) (by omega)
    have hlow := utf8Size_hexDigit (n := n % 16) (by omega)
    have hzero : '0'.utf8Size = 1 := by decide
    simp [Text.byteLength, hhigh, hlow, hzero]
  have hzero : hexValue? '0' = some 0 := by decide
  rw [readHex, if_neg hlong]
  simp only [hzero, hexValue?_hexDigit (n := n / 16) (by omega),
    hexValue?_hexDigit (n := n % 16) (by omega)]
  rw [show ((16 * 0 + 0) * 16 + n / 16) * 16 + n % 16 = n by omega]

/-! ### Escapes -/

/-- An escape with a letter of its own. -/
theorem readEscape_short {c e : Char} (hu : c ≠ 'u') (hc : shortEscape? c = some e)
    (rest : List Char) : readEscape (c :: rest) = .ok (e, rest) := by
  rw [readEscape, if_neg hu, hc]

/-- The escape of a control character. -/
theorem readEscape_control {c : Char} (hc : c.toNat < 0x20) (rest : List Char) :
    readEscape ('u' :: '0' :: '0' :: hexDigit (c.toNat / 16) :: hexDigit (c.toNat % 16) :: rest) =
      .ok (c, rest) := by
  rw [readEscape, if_pos rfl, readHex_hexDigits (by omega)]
  simp only
  rw [if_neg (by omega), if_neg (by omega), Char.ofNat_toNat]

/-- An escape is one step of reading. -/
theorem readChars_escape {c : Char} {escape rest : List Char}
    (h : readEscape (escape ++ rest) = .ok (c, rest)) (fuel : Nat) :
    readChars (fuel + 1) ('\\' :: escape ++ rest) =
      (readChars fuel rest).map fun p => (c :: p.1, p.2) := by
  rw [List.cons_append, readChars, if_neg (by decide), if_pos rfl, h]

/-- What is written for a character is one step of reading. -/
theorem readChars_escapeChar (c : Char) (fuel : Nat) (rest : List Char) :
    readChars (fuel + 1) (escapeChar c ++ rest) =
      (readChars fuel rest).map fun p => (c :: p.1, p.2) := by
  have hshort : ∀ {d e : Char}, d ≠ 'u' → shortEscape? d = some e →
      readChars (fuel + 1) (['\\', d] ++ rest) =
        (readChars fuel rest).map fun p => (e :: p.1, p.2) := by
    intro d e hu hd
    have hread : readEscape ([d] ++ rest) = .ok (e, rest) := readEscape_short hu hd rest
    exact readChars_escape hread fuel
  unfold escapeChar
  -- the branches of the signs with a letter of their own come first
  iterate 7
    split
    · subst c
      exact hshort (by decide) (by decide)
  split
  · rename_i hcontrol
    exact readChars_escape (readEscape_control hcontrol rest) fuel
  · rename_i hquote hbackslash _ _ _ _ _ hcontrol
    rw [List.singleton_append, readChars, if_neg hquote, if_neg hbackslash, if_neg hcontrol]

theorem escapeChar_ne_nil (c : Char) : escapeChar c ≠ [] := by
  unfold escapeChar
  repeat' split
  all_goals simp

theorem length_le_escaped (cs : List Char) : cs.length ≤ (cs.flatMap escapeChar).length := by
  induction cs with
  | nil => simp
  | cons c cs ih =>
    have h := List.length_pos_iff.mpr (escapeChar_ne_nil c)
    rw [List.flatMap_cons, List.length_append, List.length_cons]
    omega

/-- **A written string is read back.** -/
theorem readString_quote (cs rest : List Char) :
    readString (cs.flatMap escapeChar ++ '"' :: rest) = .ok (cs, rest) := by
  -- every character takes one unit of fuel, and the quotation mark the last one
  have hread : ∀ fuel, readChars (cs.length + fuel + 1) (cs.flatMap escapeChar ++ '"' :: rest) =
      .ok (cs, rest) := by
    intro fuel
    induction cs with
    | nil => rfl
    | cons c cs ih =>
      have hfuel : (c :: cs).length + fuel + 1 = cs.length + fuel + 1 + 1 := by
        rw [List.length_cons]
        omega
      rw [hfuel, List.flatMap_cons, List.append_assoc, readChars_escapeChar, ih]
      rfl
  have hlength := length_le_escaped cs
  obtain ⟨fuel, hfuel⟩ : ∃ fuel, (cs.flatMap escapeChar ++ '"' :: rest).length =
      cs.length + fuel + 1 := by
    refine Nat.exists_eq_add_of_lt ?_
    rw [List.length_append, List.length_cons]
    omega
  rw [readString, hfuel, hread]

end BannerMatch.Json
