import BannerMatch.Proofs.Text.Utf8
import Mathlib.Tactic

/-!
# Lines of decoded bytes

A byte below `0x80` ends whatever character is being read and stands for itself
(`decode_append_ascii`), and no other byte gives a line feed (`lineFeed_not_mem_decode`). So it does
not matter whether an input is decoded before it is cut into lines or after that
(`markedLines_decode`). Where lines are trimmed it does not matter either whether their marks have
been taken off (`trim_unmarked`, `trim_decode_unmarked`).
-/

namespace BannerMatch.Text

/-! ### One byte -/

/-- The characters that a step gives, and the start of the next one. -/
def ByteStep.result : ByteStep → List Char × Option Partial
  | .char c => ([c], none)
  | .more p => ([], some p)
  | .broken => ([replacement], none)

/-- The characters that one byte gives after the start `pending` of a character, and the start that
is pending then. -/
def readByte (pending : Option Partial) (b : ℕ) : List Char × Option Partial :=
  match pending with
  | none => (firstByte b).result
  | some p => match p.byte b with
      | .broken => (replacement :: (firstByte b).result.1, (firstByte b).result.2)
      | step => step.result

/-- The lenient reader reads byte by byte. -/
theorem decodeFrom_cons (pending : Option Partial) (b : UInt8) (rest : List UInt8) :
    decodeFrom pending (b :: rest) =
      (readByte pending b.toNat).1 ++ decodeFrom (readByte pending b.toNat).2 rest := by
  cases pending with
  | none =>
    simp only [decodeFrom, readByte]
    cases firstByte b.toNat <;> simp [ByteStep.result]
  | some p =>
    simp only [decodeFrom, readByte]
    cases p.byte b.toNat with
    | char c => simp [ByteStep.result]
    | more q => simp [ByteStep.result]
    | broken => cases firstByte b.toNat <;> simp [ByteStep.result]

/-- A start that the reader can come to: the next byte is no ASCII, and the code of the character
will not be below `0x80`. -/
structure Partial.Proper (p : Partial) : Prop where
  low : 0x80 ≤ p.low
  last : p.missing ≤ 1 → 2 ≤ p.value
  more : 1 < p.missing → 2 ≤ p.value * 0x40 + (p.low - 0x80)

theorem proper_of_firstByte {b : ℕ} {p : Partial} (h : firstByte b = .more p) : p.Proper := by
  unfold firstByte at h
  split_ifs at h
  all_goals
    rw [← ByteStep.more.inj h]
    constructor <;> dsimp only <;> omega

theorem Partial.Proper.of_byte {p q : Partial} (hp : p.Proper) {b : ℕ} (h : p.byte b = .more q) :
    q.Proper := by
  obtain ⟨hlow, -, hmore⟩ := hp
  unfold Partial.byte at h
  split_ifs at h with hb hmissing
  rw [← ByteStep.more.inj h]
  have hmore := hmore (by omega)
  constructor <;> dsimp only <;> omega

theorem toNat_ofNat_eq_or (n : ℕ) : (Char.ofNat n).toNat = n ∨ (Char.ofNat n).toNat = 0 := by
  by_cases hn : n.isValidChar
  · exact .inl (congrArg Char.toNat (dif_pos hn))
  · exact .inr (congrArg Char.toNat (dif_neg hn))

/-- A character of several bytes is no line feed. -/
theorem Partial.Proper.ne_lineFeed {p : Partial} (hp : p.Proper) {b : ℕ} {c : Char}
    (h : p.byte b = .char c) : c ≠ '\n' := by
  obtain ⟨hlow, hlast, -⟩ := hp
  unfold Partial.byte at h
  split_ifs at h with hb hmissing
  rw [← ByteStep.char.inj h]
  have hlast := hlast hmissing
  intro hc
  have hcode : (Char.ofNat (p.value * 0x40 + (b - 0x80))).toNat = 10 := congrArg Char.toNat hc
  rcases toNat_ofNat_eq_or (p.value * 0x40 + (b - 0x80)) with heq | heq <;> omega

theorem eq_of_firstByte {b : ℕ} {c : Char} (h : firstByte b = .char c) : c = Char.ofNat b := by
  unfold firstByte at h
  split_ifs at h
  exact (ByteStep.char.inj h).symm

variable {pending : Option Partial}

theorem proper_readByte (hp : ∀ p ∈ pending, p.Proper) (b : ℕ) :
    ∀ q ∈ (readByte pending b).2, q.Proper := by
  have hfirst : ∀ q ∈ (firstByte b).result.2, q.Proper := by
    intro q hq
    cases hstep : firstByte b with
    | more p => rw [hstep] at hq; cases hq; exact proper_of_firstByte hstep
    | char c => rw [hstep] at hq; cases hq
    | broken => rw [hstep] at hq; cases hq
  intro q hq
  cases pending with
  | none => exact hfirst q hq
  | some p =>
    rw [readByte] at hq
    cases hstep : p.byte b with
    | more p' => rw [hstep] at hq; cases hq; exact (hp p rfl).of_byte hstep
    | char c => rw [hstep] at hq; cases hq
    | broken => rw [hstep] at hq; exact hfirst q hq

/-- A byte below `0x80` ends the character that is being read. -/
theorem readByte_ascii (hp : ∀ p ∈ pending, p.Proper) {b : ℕ} (hb : b < 0x80) :
    readByte pending b = (decodeFrom pending [] ++ [Char.ofNat b], none) := by
  have hfirst : firstByte b = .char (Char.ofNat b) := if_pos hb
  cases pending with
  | none => rw [readByte, hfirst]; rfl
  | some p =>
    have hlow := (hp p rfl).low
    have hbroken : p.byte b = .broken := if_neg fun h => by omega
    simp only [readByte, hbroken, hfirst]
    rfl

theorem eq_lineFeed_of_mem_readByte (hp : ∀ p ∈ pending, p.Proper) {b : UInt8}
    (hmem : '\n' ∈ (readByte pending b.toNat).1) : b = 0x0A := by
  have hfirst : '\n' ∈ (firstByte b.toNat).result.1 → b = 0x0A := by
    intro hmem
    cases hstep : firstByte b.toNat with
    | char c =>
      rw [hstep] at hmem
      have hc : '\n' = Char.ofNat b.toNat :=
        (List.mem_singleton.mp hmem).trans (eq_of_firstByte hstep)
      have hcode : (Char.ofNat b.toNat).toNat = 10 := congrArg Char.toNat hc.symm
      rcases toNat_ofNat_eq_or b.toNat with heq | heq
      · exact UInt8.toNat_inj.mp (heq.symm.trans hcode)
      · omega
    | more p => rw [hstep] at hmem; cases hmem
    | broken => rw [hstep] at hmem; exact absurd (List.mem_singleton.mp hmem) (by decide)
  cases pending with
  | none => exact hfirst hmem
  | some p =>
    rw [readByte] at hmem
    cases hstep : p.byte b.toNat with
    | char c =>
      rw [hstep] at hmem
      exact absurd (List.mem_singleton.mp hmem).symm ((hp p rfl).ne_lineFeed hstep)
    | more q => rw [hstep] at hmem; cases hmem
    | broken =>
      rw [hstep] at hmem
      rcases List.mem_cons.mp hmem with h | h
      · exact absurd h (by decide)
      · exact hfirst h

/-! ### Bytes below `0x80` and line feeds -/

theorem decodeFrom_append_ascii (hp : ∀ p ∈ pending, p.Proper) (front : List UInt8) {b : UInt8}
    (hb : b.toNat < 0x80) (rest : List UInt8) :
    decodeFrom pending (front ++ b :: rest) =
      decodeFrom pending front ++ Char.ofNat b.toNat :: decodeFrom none rest := by
  induction front generalizing pending with
  | nil =>
    rw [List.nil_append, decodeFrom_cons, readByte_ascii hp hb, List.append_assoc]
    rfl
  | cons a front ih =>
    rw [List.cons_append, decodeFrom_cons, decodeFrom_cons, ih (proper_readByte hp _),
      List.append_assoc]

/-- **A byte below `0x80` stands for itself**, whatever comes before it. -/
theorem decode_append_ascii (front : List UInt8) {b : UInt8} (hb : b.toNat < 0x80)
    (rest : List UInt8) :
    decode (front ++ b :: rest) = decode front ++ Char.ofNat b.toNat :: decode rest :=
  decodeFrom_append_ascii (by simp) front hb rest

theorem decode_append_lineFeed (front rest : List UInt8) :
    decode (front ++ 0x0A :: rest) = decode front ++ '\n' :: decode rest :=
  decode_append_ascii front (by decide) rest

theorem lineFeed_not_mem_decodeFrom (hp : ∀ p ∈ pending, p.Proper) {bytes : List UInt8}
    (hbytes : 0x0A ∉ bytes) : '\n' ∉ decodeFrom pending bytes := by
  induction bytes generalizing pending with
  | nil => cases pending <;> simp [decodeFrom, replacement]
  | cons b rest ih =>
    obtain ⟨hb, hrest⟩ := List.ne_and_not_mem_of_not_mem_cons hbytes
    rw [decodeFrom_cons, List.mem_append, not_or]
    exact ⟨fun hmem => hb (eq_lineFeed_of_mem_readByte hp hmem).symm,
      ih (proper_readByte hp _) hrest⟩

/-- **Only a line feed is read as one.** -/
theorem lineFeed_not_mem_decode {bytes : List UInt8} (hbytes : 0x0A ∉ bytes) :
    '\n' ∉ decode bytes :=
  lineFeed_not_mem_decodeFrom (by simp) hbytes

/-- A character that has been begun gives a character, if only the replacement. -/
theorem decodeFrom_some_ne_nil (p : Partial) (bytes : List UInt8) :
    decodeFrom (some p) bytes ≠ [] := by
  induction bytes generalizing p with
  | nil => simp [decodeFrom]
  | cons b rest ih =>
    rw [decodeFrom_cons, readByte]
    cases p.byte b.toNat with
    | char c => simp [ByteStep.result]
    | more q => exact ih q
    | broken => simp

theorem decode_ne_nil {bytes : List UInt8} (hne : bytes ≠ []) : decode bytes ≠ [] := by
  obtain ⟨b, rest, rfl⟩ := List.exists_cons_of_ne_nil hne
  rw [decode, decodeFrom_cons, readByte]
  cases firstByte b.toNat with
  | char c => simp [ByteStep.result]
  | more p => exact decodeFrom_some_ne_nil p rest
  | broken => simp [ByteStep.result]

/-! ### Lines -/

/-- **An input may be decoded before it is cut into lines or after that.** -/
theorem markedLines_decode (bytes : List UInt8) :
    markedLinesFrom (· == '\n') [] (decode bytes) =
      (markedLinesFrom (· == 0x0A) [] bytes).map decode := by
  have hfree : ∀ front : List UInt8, (∀ b ∈ front, (b == 0x0A) = false) →
      ∀ c ∈ decode front, (c == '\n') = false := by
    intro front hfront c hc
    have hfeed : 0x0A ∉ front := fun hmem => by simpa using hfront _ hmem
    simpa using ne_of_mem_of_not_mem hc (lineFeed_not_mem_decode hfeed)
  induction bytes using @lines_induction _ (fun b : UInt8 => b == 0x0A) with
  | last front hfront =>
    by_cases hne : front = []
    · subst hne
      rfl
    · rw [markedLinesFrom_eq_singleton hne hfront,
        markedLinesFrom_eq_singleton (decode_ne_nil hne) (hfree front hfront), List.map_singleton]
  | line front mark rest hfront hmark ih =>
    rw [beq_iff_eq] at hmark
    subst hmark
    rw [decode_append_lineFeed, markedLinesFrom_mark (hfree front hfront) rfl,
      markedLinesFrom_mark hfront rfl, List.map_cons, decode_append_lineFeed, ih]
    rfl

/-! ### Marks -/

/-- What is taken off the end of a line. -/
theorem exists_eq_unmarked_append {α : Type} [DecidableEq α] (feed carriageReturn : α)
    (line : List α) :
    ∃ mark, line = unmarked feed carriageReturn line ++ mark ∧
      (mark = [] ∨ mark = [feed] ∨ mark = [carriageReturn, feed]) := by
  rw [unmarked.eq_def]
  split
  · rename_i hnil
    exact ⟨[], by simpa using hnil, .inl rfl⟩
  · rename_i a front hline
    rw [List.reverse_eq_cons_iff] at hline
    split_ifs with ha hfront
    · exact ⟨[], by simp, .inl rfl⟩
    · obtain ⟨front, rfl⟩ := List.head?_eq_some_iff.mp hfront
      exact ⟨[carriageReturn, feed], by simp [hline, not_not.mp ha], .inr (.inr rfl)⟩
    · exact ⟨[feed], by simp [hline, not_not.mp ha], .inr (.inl rfl)⟩

/-- White space at the end does not count in a trimmed text. -/
theorem trim_append_gap (cs : List Char) {gap : List Char} (hgap : IsBlankRun gap) :
    trim (cs ++ gap) = trim cs := by
  have hend : ∀ ds, trimEnd (ds ++ gap) = trimEnd ds := by
    intro ds
    rw [trimEnd, List.reverse_append, List.dropWhile_append_of_pos, trimEnd]
    exact fun c hc => hgap c (List.mem_reverse.mp hc)
  rw [trim, trim, trimStart, trimStart, List.dropWhile_append]
  split
  · rename_i hnil
    rw [List.isEmpty_iff.mp hnil, ← hend []]
    have hdrop := trimStart_append hgap flush_nil
    rw [List.append_nil] at hdrop
    rw [← trimStart, hdrop, List.nil_append, ← List.nil_append gap, hend]
  · exact hend _

theorem trim_unmarked (line : List Char) : trim (unmarked '\n' '\r' line) = trim line := by
  obtain ⟨mark, hline, hmark⟩ := exists_eq_unmarked_append '\n' '\r' line
  have hgap : IsBlankRun mark := by
    rcases hmark with rfl | rfl | rfl <;> decide
  conv_rhs => rw [hline]
  exact (trim_append_gap _ hgap).symm

theorem trim_decode_unmarked (line : List UInt8) :
    trim (decode (unmarked 0x0A 0x0D line)) = trim (decode line) := by
  obtain ⟨mark, hline, hmark⟩ := exists_eq_unmarked_append (0x0A : UInt8) 0x0D line
  conv_rhs => rw [hline]
  rcases hmark with rfl | rfl | rfl
  · rw [List.append_nil]
  · rw [decode_append_ascii _ (by decide)]
    exact (trim_append_gap _ (by decide)).symm
  · rw [decode_append_ascii _ (by decide)]
    exact (trim_append_gap _ (by decide)).symm

end BannerMatch.Text
