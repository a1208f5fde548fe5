import BannerMatch.Proofs.Text.Words
import BannerMatch.Text.Utf8

/-!
# Reading UTF-8 back

Both readers of `Text.Utf8` take the same steps as long as nothing is broken. `Spells pending bytes
c` says that the bytes finish the character `c` after the start `pending`; `spells_encodeCode` shows
it of the bytes that are written for a character. `decode_encode` and `decode?_encode` are the round
trips of the lenient and of the strict reader.
-/

namespace BannerMatch.Text

/-! ### The bytes of one character -/

/-- What the next byte gives after the start `pending` of a character. -/
def byteStep (pending : Option Partial) (b : Nat) : ByteStep :=
  match pending with
  | none => firstByte b
  | some p => p.byte b

/-- The bytes finish a character after the start `pending`. -/
inductive Spells : Option Partial → List UInt8 → Char → Prop
  | last {pending : Option Partial} {b : UInt8} {c : Char}
      (step : byteStep pending b.toNat = .char c) : Spells pending [b] c
  | more {pending : Option Partial} {b : UInt8} {p : Partial} {bytes : List UInt8} {c : Char}
      (step : byteStep pending b.toNat = .more p) (rest : Spells (some p) bytes c) :
      Spells pending (b :: bytes) c

theorem toNat_toUInt8 {n : Nat} (hn : n < 0x100) : n.toUInt8.toNat = n := by
  simpa using Nat.mod_eq_of_lt hn

theorem byte_last (v x : Nat) (hx : x < 0x40) :
    Partial.byte ⟨v, 1, 0x80, 0xBF⟩ (0x80 + x) = .char (Char.ofNat (v * 0x40 + x)) := by
  rw [Partial.byte, if_pos (by simp only; omega)]
  simp

theorem byte_more {v low high x k : Nat} (hlow : low ≤ 0x80 + x) (hhigh : 0x80 + x ≤ high) :
    Partial.byte ⟨v, k + 2, low, high⟩ (0x80 + x) = .more ⟨v * 0x40 + x, k + 1, 0x80, 0xBF⟩ := by
  rw [Partial.byte, if_pos ⟨hlow, hhigh⟩]
  simp

/-- The last byte of a character. -/
theorem spells_one (n : Nat) :
    Spells (some ⟨n / 0x40, 1, 0x80, 0xBF⟩) [(0x80 + n % 0x40).toUInt8] (Char.ofNat n) := by
  refine .last ?_
  rw [toNat_toUInt8 (by omega)]
  have h := byte_last (n / 0x40) (n % 0x40) (by omega)
  rwa [show n / 0x40 * 0x40 + n % 0x40 = n by omega] at h

/-- The last two bytes of a character. -/
theorem spells_two (n low high : Nat) (hlow : low ≤ 0x80 + n / 0x40 % 0x40)
    (hhigh : 0x80 + n / 0x40 % 0x40 ≤ high) :
    Spells (some ⟨n / 0x1000, 2, low, high⟩)
      [(0x80 + n / 0x40 % 0x40).toUInt8, (0x80 + n % 0x40).toUInt8] (Char.ofNat n) := by
  refine .more ?_ (spells_one n)
  rw [toNat_toUInt8 (by omega)]
  have h := byte_more (v := n / 0x1000) (k := 0) hlow hhigh
  rwa [show n / 0x1000 * 0x40 + n / 0x40 % 0x40 = n / 0x40 by omega] at h

/-- The last three bytes of a character. -/
theorem spells_three (n low high : Nat) (hlow : low ≤ 0x80 + n / 0x1000 % 0x40)
    (hhigh : 0x80 + n / 0x1000 % 0x40 ≤ high) :
    Spells (some ⟨n / 0x40000, 3, low, high⟩)
      [(0x80 + n / 0x1000 % 0x40).toUInt8, (0x80 + n / 0x40 % 0x40).toUInt8,
        (0x80 + n % 0x40).toUInt8] (Char.ofNat n) := by
  refine .more ?_ (spells_two n 0x80 0xBF (by omega) (by omega))
  rw [toNat_toUInt8 (by omega)]
  have h := byte_more (v := n / 0x40000) (k := 1) hlow hhigh
  rwa [show n / 0x40000 * 0x40 + n / 0x1000 % 0x40 = n / 0x1000 by omega] at h

theorem spells_of_lt_800 {n : Nat} (hlow : 0x80 ≤ n) (hhigh : n < 0x800) :
    Spells none [(0xC0 + n / 0x40).toUInt8, (0x80 + n % 0x40).toUInt8] (Char.ofNat n) := by
  refine .more ?_ (spells_one n)
  rw [toNat_toUInt8 (by omega), byteStep, firstByte, if_neg (by omega), if_neg (by omega),
    if_pos (by omega), Nat.add_sub_cancel_left]

/-- Three bytes; the surrogates `0xD800` to `0xDFFF` are no characters. -/
theorem spells_of_lt_10000 {n : Nat} (hlow : 0x800 ≤ n) (hhigh : n < 0x10000)
    (hvalid : n < 0xD800 ∨ 0xDFFF < n) :
    Spells none [(0xE0 + n / 0x1000).toUInt8, (0x80 + n / 0x40 % 0x40).toUInt8,
      (0x80 + n % 0x40).toUInt8] (Char.ofNat n) := by
  have hfirst : byteStep none (0xE0 + n / 0x1000) =
      firstByte (0xE0 + n / 0x1000) := rfl
  -- after `0xE0` the second byte is high, so that the code is not too small; after `0xED` it is low,
  -- so that the code is no surrogate
  by_cases h0 : n / 0x1000 = 0
  · refine .more ?_ (spells_two n 0xA0 0xBF (by omega) (by omega))
    rw [toNat_toUInt8 (by omega), hfirst, h0]
    rfl
  by_cases hD : n / 0x1000 = 0xD
  · refine .more ?_ (spells_two n 0x80 0x9F (by omega) (by omega))
    rw [toNat_toUInt8 (by omega), hfirst, hD]
    rfl
  · refine .more ?_ (spells_two n 0x80 0xBF (by omega) (by omega))
    rw [toNat_toUInt8 (by omega), hfirst, firstByte, if_neg (by omega), if_neg (by omega),
      if_neg (by omega), if_neg (by omega), if_neg (by omega), if_pos (by omega),
      Nat.add_sub_cancel_left]

/-- Four bytes; the last character is `0x10FFFF`. -/
theorem spells_of_lt_110000 {n : Nat} (hlow : 0x10000 ≤ n) (hhigh : n < 0x110000) :
    Spells none [(0xF0 + n / 0x40000).toUInt8, (0x80 + n / 0x1000 % 0x40).toUInt8,
      (0x80 + n / 0x40 % 0x40).toUInt8, (0x80 + n % 0x40).toUInt8] (Char.ofNat n) := by
  have hfirst : byteStep none (0xF0 + n / 0x40000) =
      firstByte (0xF0 + n / 0x40000) := rfl
  -- after `0xF0` the second byte is high, after `0xF4` it is low, so that the code is in range
  by_cases h0 : n / 0x40000 = 0
  · refine .more ?_ (spells_three n 0x90 0xBF (by omega) (by omega))
    rw [toNat_toUInt8 (by omega), hfirst, h0]
    rfl
  by_cases h4 : n / 0x40000 = 4
  · refine .more ?_ (spells_three n 0x80 0x8F (by omega) (by omega))
    rw [toNat_toUInt8 (by omega), hfirst, h4]
    rfl
  · refine .more ?_ (spells_three n 0x80 0xBF (by omega) (by omega))
    rw [toNat_toUInt8 (by omega), hfirst, firstByte, if_neg (by omega), if_neg (by omega),
      if_neg (by omega), if_neg (by omega), if_neg (by omega), if_neg (by omega),
      if_neg (by omega), if_pos (by omega), Nat.add_sub_cancel_left]

/-- **The bytes written for a character finish it.** -/
theorem spells_encodeCode (c : Char) : Spells none (encodeCode c.toNat) c := by
  have hvalid : c.toNat < 0xD800 ∨ 0xDFFF < c.toNat ∧ c.toNat < 0x110000 := c.valid
  have hc : Char.ofNat c.toNat = c := Char.ofNat_toNat c
  unfold encodeCode
  split
  · rename_i h
    refine .last ?_
    rw [toNat_toUInt8 (by omega), byteStep, firstByte, if_pos h, hc]
  split
  · simpa only [hc] using spells_of_lt_800 (n := c.toNat) (by omega) (by omega)
  split
  · simpa only [hc] using spells_of_lt_10000 (n := c.toNat) (by omega) (by omega) (by omega)
  · simpa only [hc] using spells_of_lt_110000 (n := c.toNat) (by omega) (by omega)

/-! ### Texts -/

theorem Spells.decodeFrom {pending : Option Partial} {bytes : List UInt8} {c : Char}
    (h : Spells pending bytes c) (rest : List UInt8) :
    Text.decodeFrom pending (bytes ++ rest) = c :: Text.decodeFrom none rest := by
  induction h with
  | @last pending b c step =>
    cases pending <;> simp_all [Text.decodeFrom, byteStep]
  | @more pending b p bytes c step _ ih =>
    cases pending <;> simp_all [Text.decodeFrom, byteStep]

theorem Spells.decodeStrict {pending : Option Partial} {bytes : List UInt8} {c : Char}
    (h : Spells pending bytes c) (rest : List UInt8) :
    Text.decodeStrict pending (bytes ++ rest) = (Text.decodeStrict none rest).map (c :: ·) := by
  induction h with
  | @last pending b c step =>
    cases pending <;> simp_all [Text.decodeStrict, byteStep]
  | @more pending b p bytes c step _ ih =>
    cases pending <;> simp_all [Text.decodeStrict, byteStep]

theorem encode_cons (c : Char) (cs : List Char) :
    encode (c :: cs) = encodeCode c.toNat ++ encode cs := by
  simp [encode]

/-- The lenient reader gives a text back. -/
theorem decode_encode (cs : List Char) : decode (encode cs) = cs := by
  induction cs with
  | nil => rfl
  | cons c cs ih =>
    rw [encode_cons, decode, (spells_encodeCode c).decodeFrom]
    rw [decode] at ih
    rw [ih]

/-- The strict reader gives a text back. -/
theorem decode?_encode (cs : List Char) : decode? (encode cs) = some cs := by
  induction cs with
  | nil => rfl
  | cons c cs ih =>
    rw [encode_cons, decode?, (spells_encodeCode c).decodeStrict]
    rw [decode?] at ih
    rw [ih, Option.map_some]

/-! ### Line feeds -/

theorem encodeCode_ne_nil (n : Nat) : encodeCode n ≠ [] := by
  unfold encodeCode
  split
  · simp
  split
  · simp
  split <;> simp

/-- A byte below `0x80` is written for the character with that code only. -/
theorem eq_or_le_of_mem_encodeCode {n : Nat} (hn : n < 0x110000) {b : UInt8}
    (hb : b ∈ encodeCode n) : b.toNat = n ∨ 0x80 ≤ b.toNat := by
  unfold encodeCode at hb
  split at hb
  · rw [List.mem_singleton] at hb
    rw [hb, toNat_toUInt8 (by omega)]
    exact .inl rfl
  right
  split at hb
  · simp only [List.mem_cons, List.not_mem_nil, or_false] at hb
    rcases hb with rfl | rfl <;> rw [toNat_toUInt8 (by omega)] <;> omega
  split at hb
  · simp only [List.mem_cons, List.not_mem_nil, or_false] at hb
    rcases hb with rfl | rfl | rfl <;> rw [toNat_toUInt8 (by omega)] <;> omega
  · simp only [List.mem_cons, List.not_mem_nil, or_false] at hb
    rcases hb with rfl | rfl | rfl | rfl <;> rw [toNat_toUInt8 (by omega)] <;> omega

/-- No byte of a text without line feeds is one. -/
theorem lineFeed_not_mem_encode {cs : List Char} (hcs : '\n' ∉ cs) : 0x0A ∉ encode cs := by
  intro hmem
  obtain ⟨c, hc, hb⟩ := List.mem_flatMap.mp hmem
  have hlt : c.toNat < 0x110000 := by
    rcases c.valid with h | h
    · exact Nat.lt_trans h (by decide)
    · exact h.2
  rcases eq_or_le_of_mem_encodeCode hlt hb with h | h
  · exact ne_of_mem_of_not_mem hc hcs (Char.toNat_inj.mp h.symm)
  · exact absurd h (by decide)

/-- The bytes of a text without line feeds are one line. -/
theorem byteLines_encode {cs : List Char} (hne : cs ≠ []) (hcs : '\n' ∉ cs) :
    byteLines (encode cs) = [encode cs] := by
  have hnil : encode cs ≠ [] := by
    obtain ⟨c, cs, rfl⟩ := List.exists_cons_of_ne_nil hne
    simp [encode_cons, encodeCode_ne_nil]
  have hmarks : ∀ b ∈ encode cs, (b == 0x0A) = false := fun b hb => by
    simpa using ne_of_mem_of_not_mem hb (lineFeed_not_mem_encode hcs)
  rw [byteLines, markedLinesFrom_eq_singleton hnil hmarks, List.map_singleton,
    unmarked_eq_self (lineFeed_not_mem_encode hcs)]

end BannerMatch.Text
