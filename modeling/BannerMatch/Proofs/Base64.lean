import BannerMatch.Base64
import BannerMatch.Proofs.Text.Utf8
import Mathlib.Tactic

/-!
# Base64 in both directions

Reading undoes writing (`decode?_encode`), and nothing else can be read: what is read is the
encoding of the bytes that come out (`encode_of_decode?`). So `decode?_eq_some_iff`: the texts that
are accepted are exactly those that are written.
-/

namespace BannerMatch.Base64

open BannerMatch.Text (toNat_toUInt8)

/-! ### Digits -/

theorem value?_digit {n : ℕ} (hn : n < 64) : value? (digit n) = some n := by
  revert hn
  exact (by decide : ∀ n < 64, value? (digit n) = some n) n

/-- Only the digit that is written for a value has that value. -/
theorem digit_of_value? {b : UInt8} {n : ℕ} (h : value? b = some n) : n < 64 ∧ digit n = b := by
  have hall : ∀ k < 256, ∀ n ∈ value? k.toUInt8, n < 64 ∧ digit n = k.toUInt8 := by
    decide +kernel
  have hb := hall b.toNat b.toNat_lt n
  simpa [h] using hb

theorem digit_ne_pad {n : ℕ} (hn : n < 64) : digit n ≠ pad := by
  intro h
  have hvalue := value?_digit hn
  rw [h] at hvalue
  cases hvalue

/-- A number is that of its byte. -/
theorem toUInt8_of_eq {n : ℕ} {b : UInt8} (h : n = b.toNat) : n.toUInt8 = b := by
  subst h
  exact UInt8.ofNat_toNat

/-! ### Groups -/

/-- What is read from four digits. -/
theorem group?_digits {w x y z : ℕ} (hw : w < 64) (hx : x < 64) (hy : y < 64) (hz : z < 64) :
    group? (digit w) (digit x) (digit y) (digit z) =
      some [(w * 4 + x / 16).toUInt8, (x % 16 * 16 + y / 4).toUInt8, (y % 4 * 64 + z).toUInt8] := by
  simp [group?, value?_digit, hw, hx, hy, hz]

/-- A group that is not filled up is followed by any others. -/
theorem decode?_cons {a b c d : UInt8} (hd : d ≠ pad) (rest : List UInt8) :
    decode? (a :: b :: c :: d :: rest) =
      (group? a b c d).bind fun first => (decode? rest).map (first ++ ·) := by
  cases rest with
  | nil =>
    have hlast : decode? [a, b, c, d] = group? a b c d := if_neg hd
    rw [hlast]
    cases group? a b c d <;> simp [decode?]
  | cons e rest =>
    have hmore : decode? (a :: b :: c :: d :: e :: rest) = (group? a b c d).bind fun first =>
        (decode? (e :: rest)).bind fun others => some (first ++ others) := rfl
    rw [hmore]
    cases decode? (e :: rest) <;> rfl

/-- What is read from a group that is filled up twice, -/
theorem lastGroup?_pad_pad {w x : ℕ} (hw : w < 64) (hx : x < 64) (hrest : x % 16 = 0) :
    lastGroup? (digit w) (digit x) pad pad = some [(w * 4 + x / 16).toUInt8] := by
  simp [lastGroup?, value?_digit, hw, hx, hrest]

/-- and from one that is filled up once. -/
theorem lastGroup?_pad {w x y : ℕ} (hw : w < 64) (hx : x < 64) (hy : y < 64)
    (hrest : y % 4 = 0) :
    lastGroup? (digit w) (digit x) (digit y) pad =
      some [(w * 4 + x / 16).toUInt8, (x % 16 * 16 + y / 4).toUInt8] := by
  simp [lastGroup?, value?_digit, hw, hx, hy, hrest, digit_ne_pad hy]

/-- **Reading undoes writing.** -/
theorem decode?_encode (bytes : List UInt8) : decode? (encode bytes) = some bytes := by
  fun_induction encode bytes with
  | case1 => rfl
  | case2 a =>
    have ha := a.toNat_lt
    rw [decode?, lastGroup?_pad_pad (by omega) (by omega) (by omega),
      toUInt8_of_eq (b := a) (by omega)]
  | case3 a b =>
    have ha := a.toNat_lt
    have hb := b.toNat_lt
    rw [decode?, lastGroup?_pad (by omega) (by omega) (by omega) (by omega),
      toUInt8_of_eq (b := a) (by omega), toUInt8_of_eq (b := b) (by omega)]
  | case4 a b c rest ih =>
    have ha := a.toNat_lt
    have hb := b.toNat_lt
    have hc := c.toNat_lt
    rw [decode?_cons (digit_ne_pad (by omega)),
      group?_digits (by omega) (by omega) (by omega) (by omega), ih,
      toUInt8_of_eq (b := a) (by omega), toUInt8_of_eq (b := b) (by omega),
      toUInt8_of_eq (b := c) (by omega)]
    rfl

/-! ### Only what is written is read -/

/-- What is read from a group is written as that group. -/
theorem encode_of_group? {a b c d : UInt8} {bytes : List UInt8} (h : group? a b c d = some bytes)
    (rest : List UInt8) : encode (bytes ++ rest) = a :: b :: c :: d :: encode rest := by
  obtain ⟨w, hw, h⟩ := Option.bind_eq_some_iff.mp h
  obtain ⟨x, hx, h⟩ := Option.bind_eq_some_iff.mp h
  obtain ⟨y, hy, h⟩ := Option.bind_eq_some_iff.mp h
  obtain ⟨z, hz, h⟩ := Option.bind_eq_some_iff.mp h
  cases h
  obtain ⟨hw, rfl⟩ := digit_of_value? hw
  obtain ⟨hx, rfl⟩ := digit_of_value? hx
  obtain ⟨hy, rfl⟩ := digit_of_value? hy
  obtain ⟨hz, rfl⟩ := digit_of_value? hz
  simp only [List.cons_append, List.nil_append, encode]
  rw [toNat_toUInt8 (by omega), toNat_toUInt8 (by omega), toNat_toUInt8 (by omega)]
  have h₁ : (w * 4 + x / 16) / 4 = w := by omega
  have h₂ : (w * 4 + x / 16) % 4 * 16 + (x % 16 * 16 + y / 4) / 16 = x := by omega
  have h₃ : (x % 16 * 16 + y / 4) % 16 * 4 + (y % 4 * 64 + z) / 64 = y := by omega
  have h₄ : (y % 4 * 64 + z) % 64 = z := by omega
  rw [h₁, h₂, h₃, h₄]

/-- What is read from the last group is written as that group. -/
theorem encode_of_lastGroup? {a b c d : UInt8} {bytes : List UInt8}
    (h : lastGroup? a b c d = some bytes) : encode bytes = [a, b, c, d] := by
  rw [lastGroup?.eq_def] at h
  split_ifs at h with hd hc
  · obtain ⟨w, hw, h⟩ := Option.bind_eq_some_iff.mp h
    obtain ⟨x, hx, h⟩ := Option.bind_eq_some_iff.mp h
    split_ifs at h with hrest
    cases h
    obtain ⟨hw, rfl⟩ := digit_of_value? hw
    obtain ⟨hx, rfl⟩ := digit_of_value? hx
    rw [encode, toNat_toUInt8 (by omega), hc, hd]
    have h₁ : (w * 4 + x / 16) / 4 = w := by omega
    have h₂ : (w * 4 + x / 16) % 4 * 16 = x := by omega
    rw [h₁, h₂]
  · obtain ⟨w, hw, h⟩ := Option.bind_eq_some_iff.mp h
    obtain ⟨x, hx, h⟩ := Option.bind_eq_some_iff.mp h
    obtain ⟨y, hy, h⟩ := Option.bind_eq_some_iff.mp h
    split_ifs at h with hrest
    cases h
    obtain ⟨hw, rfl⟩ := digit_of_value? hw
    obtain ⟨hx, rfl⟩ := digit_of_value? hx
    obtain ⟨hy, rfl⟩ := digit_of_value? hy
    rw [encode, toNat_toUInt8 (by omega), toNat_toUInt8 (by omega), hd]
    have h₁ : (w * 4 + x / 16) / 4 = w := by omega
    have h₂ : (w * 4 + x / 16) % 4 * 16 + (x % 16 * 16 + y / 4) / 16 = x := by omega
    have h₃ : (x % 16 * 16 + y / 4) % 16 * 4 = y := by omega
    rw [h₁, h₂, h₃]
  · have hgroup := encode_of_group? h []
    rwa [List.append_nil] at hgroup

/-- **Whatever can be read is the encoding** of the bytes that come out. -/
theorem encode_of_decode? {digits bytes : List UInt8} (h : decode? digits = some bytes) :
    encode bytes = digits := by
  fun_induction decode? digits generalizing bytes with
  | case1 => cases h; rfl
  | case2 a b c d => exact encode_of_lastGroup? h
  | case3 a b c d rest hne ih =>
    obtain ⟨first, hfirst, h⟩ := Option.bind_eq_some_iff.mp h
    obtain ⟨others, hothers, h⟩ := Option.bind_eq_some_iff.mp h
    cases h
    rw [encode_of_group? hfirst, ih hothers]
  | case4 => cases h

/-- **Exactly the encodings are accepted.** -/
theorem decode?_eq_some_iff {digits bytes : List UInt8} :
    decode? digits = some bytes ↔ digits = encode bytes :=
  ⟨fun h => (encode_of_decode? h).symm, fun h => h ▸ decode?_encode bytes⟩

/-- The bits that padding drops must not be set, and padding must not be missing. -/
example : decode? "Zm9vYg==".toUTF8.toList = some "foob".toUTF8.toList ∧
    decode? "Zm9vYh==".toUTF8.toList = none ∧ decode? "Zm9vYg".toUTF8.toList = none := by
  decide +kernel

theorem encode_injective : Function.Injective encode := by
  intro bytes bytes' h
  have hread := decode?_encode bytes
  rw [h, decode?_encode] at hread
  exact (Option.some.inj hread).symm

/-- Every byte of an encoding is a digit or fills up the last group. -/
theorem eq_digit_or_pad_of_mem_encode {bytes : List UInt8} {b : UInt8} (h : b ∈ encode bytes) :
    (∃ n < 64, b = digit n) ∨ b = pad := by
  fun_induction encode bytes with
  | case1 => cases h
  | case2 a =>
    have ha := a.toNat_lt
    simp only [List.mem_cons, List.not_mem_nil, or_false] at h
    rcases h with rfl | rfl | rfl | rfl
    · exact .inl ⟨_, by omega, rfl⟩
    · exact .inl ⟨_, by omega, rfl⟩
    · exact .inr rfl
    · exact .inr rfl
  | case3 a c =>
    have ha := a.toNat_lt
    have hc := c.toNat_lt
    simp only [List.mem_cons, List.not_mem_nil, or_false] at h
    rcases h with rfl | rfl | rfl | rfl
    · exact .inl ⟨_, by omega, rfl⟩
    · exact .inl ⟨_, by omega, rfl⟩
    · exact .inl ⟨_, by omega, rfl⟩
    · exact .inr rfl
  | case4 a c d rest ih =>
    have ha := a.toNat_lt
    have hc := c.toNat_lt
    have hd := d.toNat_lt
    simp only [List.mem_cons] at h
    rcases h with rfl | rfl | rfl | rfl | h
    · exact .inl ⟨_, by omega, rfl⟩
    · exact .inl ⟨_, by omega, rfl⟩
    · exact .inl ⟨_, by omega, rfl⟩
    · exact .inl ⟨_, by omega, rfl⟩
    · exact ih h

end BannerMatch.Base64
