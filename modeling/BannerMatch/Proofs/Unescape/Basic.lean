import BannerMatch.Probe.Unescape
import BannerMatch.Proofs.Text.Words
import Mathlib.Tactic

/-!
# What unescaping writes

`escaped? rest` is the escape that starts with a backslash before `rest`, if `unescape` replaces it.
Unescaping goes over a text escape by escape: `unescape_backslash` and `unescape_cons` are its two
cases, and proofs about it follow them by `unescape_induction`.

* `AddsNoSpace cs`: no escape in `cs` stands for white space.
* `Past cs rest`: going over `cs` comes to `rest`.
* `unescape_eq_cons`: a sign of the pattern stands at the start of the unescaped text only if it
  stood at the start of the text.
-/

namespace BannerMatch.Probe

open BannerMatch.Pattern
open BannerMatch.Text (isBlank IsSolid isBlank_of_visible)

/-- The code of the character that an escape stands for, and what follows the escape; the text
starts after its backslash. -/
def escaped? : List Char → Option (ℕ × List Char)
  | 'r' :: rest => some (0xD, rest)
  | 'n' :: rest => some (0xA, rest)
  | 't' :: rest => some (0x9, rest)
  | '0' :: rest => some (0, rest)
  | '\\' :: rest => some (0x5C, rest)
  | 'x' :: a :: b :: rest => (hexPair? a b).map fun n => (n, rest)
  | _ => none

theorem unescape_nil : unescape [] = [] := rfl

/-- A character that is no backslash stays. -/
theorem unescape_cons {c : Char} (hc : c ≠ '\\') (rest : List Char) :
    unescape (c :: rest) = c :: unescape rest := by
  simp [unescape, hc]

/-- An escape is replaced by a pattern for its character, any other backslash stays. -/
theorem unescape_backslash (rest : List Char) :
    unescape ('\\' :: rest) =
      match escaped? rest with
      | some (n, after) => literalPattern n ++ unescape after
      | none => '\\' :: unescape rest := by
  fun_cases escaped? rest with
  | case1 | case2 | case3 | case4 | case5 => rfl
  | case6 a b after => cases h : hexPair? a b <;> simp [unescape, h]
  | case7 => simp_all [unescape]

theorem unescape_escape {rest after : List Char} {n : ℕ} (h : escaped? rest = some (n, after)) :
    unescape ('\\' :: rest) = literalPattern n ++ unescape after := by
  rw [unescape_backslash, h]

theorem unescape_other {rest : List Char} (h : escaped? rest = none) :
    unescape ('\\' :: rest) = '\\' :: unescape rest := by
  rw [unescape_backslash, h]

/-! ### Escapes -/

/-- A hexadecimal digit is a visible character. -/
theorem visible_of_hexDigit? {c : Char} {d : ℕ} (h : hexDigit? c = some d) :
    0x20 < c.toNat ∧ c.toNat < 0x80 ∧ d < 16 := by
  simp only [hexDigit?, Char.le_def, UInt32.le_iff_toNat_le] at h
  have hnat : c.val.toNat = c.toNat := rfl
  rw [hnat] at h
  split_ifs at h with h1 h2 h3 <;> simp only [Option.some.injEq] at h <;>
    simp only [Char.reduceVal, UInt32.reduceToNat] at * <;> omega

/-- An escape stands for a character with a code below `256`, and its letters are no white space. -/
theorem escaped?_eq_some {rest after : List Char} {n : ℕ} (h : escaped? rest = some (n, after)) :
    n < 256 ∧ ∃ letters, rest = letters ++ after ∧ letters ≠ [] ∧ IsSolid letters := by
  revert h
  fun_cases escaped? rest with
  | case6 a b tail =>
    intro h
    obtain ⟨n', hpair, hn⟩ := Option.map_eq_some_iff.mp h
    cases hn
    rw [hexPair?] at hpair
    cases ha : hexDigit? a with
    | none => simp [ha] at hpair
    | some m =>
      cases hb : hexDigit? b with
      | none => simp [ha, hb] at hpair
      | some k =>
        obtain ⟨haLow, haHigh, hm⟩ := visible_of_hexDigit? ha
        obtain ⟨hbLow, hbHigh, hk⟩ := visible_of_hexDigit? hb
        simp only [ha, hb, Option.some.injEq] at hpair
        refine ⟨by omega, ['x', a, b], rfl, by simp, ?_⟩
        simp only [IsSolid, List.forall_mem_cons]
        exact ⟨by decide, isBlank_of_visible haLow haHigh, isBlank_of_visible hbLow hbHigh,
          by simp⟩
  | case7 => simp
  | case1 tail | case2 tail | case3 tail | case4 tail | case5 tail =>
    intro h
    cases h
    exact ⟨by decide, [_], rfl, by simp, by decide⟩

theorem length_lt_of_escaped? {rest after : List Char} {n : ℕ}
    (h : escaped? rest = some (n, after)) : after.length < rest.length := by
  obtain ⟨-, letters, rfl, hne, -⟩ := escaped?_eq_some h
  have := List.length_pos_iff.mpr hne
  simp only [List.length_append]
  omega

/-- Going over a text escape by escape. -/
@[elab_as_elim]
theorem unescape_induction {motive : List Char → Prop} (nil : motive [])
    (char : ∀ c rest, c ≠ '\\' → motive rest → motive (c :: rest))
    (escape : ∀ rest n after, escaped? rest = some (n, after) → motive after →
      motive ('\\' :: rest))
    (other : ∀ rest, escaped? rest = none → motive rest → motive ('\\' :: rest))
    (cs : List Char) : motive cs := by
  induction hlength : cs.length using Nat.strong_induction_on generalizing cs with
  | h k ih =>
    subst hlength
    cases cs with
    | nil => exact nil
    | cons c rest =>
      by_cases hc : c = '\\'
      · subst hc
        cases h : escaped? rest with
        | none => exact other rest h (ih _ (by simp) rest rfl)
        | some p =>
          have hlt := length_lt_of_escaped? h
          exact escape rest p.1 p.2 h (ih _ (by simp only [List.length_cons]; omega) p.2 rfl)
      · exact char c rest hc (ih _ (by simp) rest rfl)

/-! ### Patterns for characters -/

/-- The three forms of a pattern for a character. -/
theorem literalPattern_cases (n : ℕ) :
    (n < 128 ∧ isMeta (Char.ofNat n) = false ∧ literalPattern n = [Char.ofNat n]) ∨
      (n < 128 ∧ isMeta (Char.ofNat n) = true ∧ literalPattern n = ['\\', Char.ofNat n]) ∨
      (128 ≤ n ∧
        literalPattern n = ['\\', 'x', upperHexDigit (n / 16), upperHexDigit (n % 16)]) := by
  unfold literalPattern
  by_cases hlow : n < 128
  · cases hmeta : isMeta (Char.ofNat n) <;> simp [hlow, hmeta]
  · simp [hlow, Nat.le_of_not_lt hlow]

theorem hexDigit?_upperHexDigit {d : ℕ} (hd : d < 16) : hexDigit? (upperHexDigit d) = some d := by
  revert hd
  exact (by decide : ∀ d < 16, hexDigit? (upperHexDigit d) = some d) d

theorem literalPattern_ne_nil (n : ℕ) : literalPattern n ≠ [] := by
  unfold literalPattern
  dsimp only
  split_ifs <;> simp

theorem unescape_ne_nil {cs : List Char} (h : cs ≠ []) : unescape cs ≠ [] := by
  cases cs using unescape_induction with
  | nil => exact absurd rfl h
  | char c rest hc => simp [unescape_cons hc]
  | escape rest n after hescape => simp [unescape_escape hescape, literalPattern_ne_nil]
  | other rest hother => simp [unescape_other hother]

/-- A pattern for a character starts with a backslash or with a character that is no sign. -/
theorem literalPattern_eq_cons (n : ℕ) :
    ∃ c tail, literalPattern n = c :: tail ∧ (isMeta c = false ∨ c = '\\') := by
  rcases literalPattern_cases n with ⟨-, hmeta, heq⟩ | ⟨-, -, heq⟩ | ⟨-, heq⟩
  · exact ⟨_, _, heq, .inl hmeta⟩
  · exact ⟨_, _, heq, .inr rfl⟩
  · exact ⟨_, _, heq, .inr rfl⟩

/-- So does what is written for a backslash. -/
theorem exists_unescape_backslash (rest : List Char) :
    ∃ c tail, unescape ('\\' :: rest) = c :: tail ∧ (isMeta c = false ∨ c = '\\') := by
  cases h : escaped? rest with
  | none => exact ⟨_, _, unescape_other h, .inr rfl⟩
  | some p =>
    obtain ⟨c, tail, heq, hsign⟩ := literalPattern_eq_cons p.1
    exact ⟨c, tail ++ unescape p.2, by rw [unescape_escape h, heq]; rfl, hsign⟩

/-- **No escape comes to stand for a sign of the pattern**: where a sign stands, it stood before. -/
theorem unescape_eq_cons {cs tail : List Char} {m : Char} (hmeta : isMeta m = true)
    (hm : m ≠ '\\') (h : unescape cs = m :: tail) : ∃ rest, cs = m :: rest := by
  cases cs with
  | nil => cases h
  | cons c rest =>
    by_cases hc : c = '\\'
    · subst hc
      obtain ⟨d, _, hd, hsign⟩ := exists_unescape_backslash rest
      rw [hd] at h
      cases h
      rcases hsign with hsign | hsign
      · rw [hmeta] at hsign
        cases hsign
      · exact absurd hsign hm
    · rw [unescape_cons hc] at h
      cases h
      exact ⟨rest, rfl⟩

theorem head?_unescape_iff {m : Char} (hmeta : isMeta m = true) (hm : m ≠ '\\')
    (cs : List Char) : (unescape cs).head? = some m ↔ cs.head? = some m := by
  rw [List.head?_eq_some_iff, List.head?_eq_some_iff]
  constructor
  · rintro ⟨tail, h⟩
    exact unescape_eq_cons hmeta hm h
  · rintro ⟨rest, rfl⟩
    exact ⟨unescape rest, unescape_cons hm rest⟩

/-! ### White space -/

/-- No escape in the text stands for white space. -/
def AddsNoSpace (cs : List Char) : Prop := (unescape cs).countP isBlank = cs.countP isBlank

instance (cs : List Char) : Decidable (AddsNoSpace cs) :=
  inferInstanceAs (Decidable (_ = _))

theorem countP_isBlank_of_isSolid {cs : List Char} (h : IsSolid cs) : cs.countP isBlank = 0 :=
  List.countP_eq_zero.mpr fun c hc => by simp [h c hc]

/-- Unescaping never takes white space away. -/
theorem countP_isBlank_le_unescape (cs : List Char) :
    cs.countP isBlank ≤ (unescape cs).countP isBlank := by
  induction cs using unescape_induction with
  | nil => exact Nat.le_refl _
  | char c rest hc ih =>
    rw [unescape_cons hc, List.countP_cons, List.countP_cons]
    omega
  | escape rest n after h ih =>
    obtain ⟨-, letters, rfl, -, hsolid⟩ := escaped?_eq_some h
    rw [unescape_escape h, List.countP_cons_of_neg (by decide), List.countP_append,
      List.countP_append, countP_isBlank_of_isSolid hsolid]
    omega
  | other rest h ih =>
    rw [unescape_other h, List.countP_cons_of_neg (by decide), List.countP_cons_of_neg (by decide)]
    exact ih

theorem AddsNoSpace.of_cons {c : Char} {rest : List Char} (hc : c ≠ '\\')
    (h : AddsNoSpace (c :: rest)) : AddsNoSpace rest := by
  rw [AddsNoSpace, unescape_cons hc, List.countP_cons, List.countP_cons] at h
  exact Nat.add_right_cancel h

theorem AddsNoSpace.of_escape {rest after : List Char} {n : ℕ}
    (hescape : escaped? rest = some (n, after)) (h : AddsNoSpace ('\\' :: rest)) :
    IsSolid (literalPattern n) ∧ AddsNoSpace after := by
  obtain ⟨-, letters, rfl, -, hsolid⟩ := escaped?_eq_some hescape
  rw [AddsNoSpace, unescape_escape hescape, List.countP_cons_of_neg (by decide), List.countP_append,
    List.countP_append, countP_isBlank_of_isSolid hsolid] at h
  have hle := countP_isBlank_le_unescape after
  refine ⟨fun c hc => ?_, by rw [AddsNoSpace]; omega⟩
  exact Bool.eq_false_iff.mpr (List.countP_eq_zero.mp (by omega) c hc)

theorem AddsNoSpace.of_other {rest : List Char} (hother : escaped? rest = none)
    (h : AddsNoSpace ('\\' :: rest)) : AddsNoSpace rest := by
  rw [AddsNoSpace, unescape_other hother, List.countP_cons_of_neg (by decide),
    List.countP_cons_of_neg (by decide)] at h
  exact h

/-! ### Going over a text -/

/-- Going over the text escape by escape comes to `rest`. -/
inductive Past : List Char → List Char → Prop
  | refl (cs : List Char) : Past cs cs
  | char {c : Char} {cs rest : List Char} (hc : c ≠ '\\') (h : Past cs rest) : Past (c :: cs) rest
  | escape {cs after rest : List Char} {n : ℕ} (hescape : escaped? cs = some (n, after))
      (h : Past after rest) : Past ('\\' :: cs) rest
  | other {cs rest : List Char} (hother : escaped? cs = none) (h : Past cs rest) :
      Past ('\\' :: cs) rest

namespace Past

variable {cs ds rest : List Char}

theorem trans (h : Past cs ds) (hrest : Past ds rest) : Past cs rest := by
  induction h with
  | refl => exact hrest
  | char hc _ ih => exact .char hc (ih hrest)
  | escape hescape _ ih => exact .escape hescape (ih hrest)
  | other hother _ ih => exact .other hother (ih hrest)

theorem suffix (h : Past cs rest) : rest <:+ cs := by
  induction h with
  | refl => exact List.suffix_refl _
  | char hc _ ih => exact ih.trans (List.suffix_cons _ _)
  | escape hescape _ ih =>
    obtain ⟨-, letters, rfl, -⟩ := escaped?_eq_some hescape
    exact ih.trans ((List.suffix_append letters _).trans (List.suffix_cons _ _))
  | other hother _ ih => exact ih.trans (List.suffix_cons _ _)

theorem length_unescape_le (h : Past cs rest) :
    (unescape rest).length ≤ (unescape cs).length := by
  induction h with
  | refl => exact Nat.le_refl _
  | char hc _ ih => rw [unescape_cons hc, List.length_cons]; omega
  | escape hescape _ ih => rw [unescape_escape hescape, List.length_append]; omega
  | other hother _ ih => rw [unescape_other hother, List.length_cons]; omega

theorem addsNoSpace (h : Past cs rest) (hspace : AddsNoSpace cs) : AddsNoSpace rest := by
  induction h with
  | refl => exact hspace
  | char hc _ ih => exact ih (hspace.of_cons hc)
  | escape hescape _ ih => exact ih (hspace.of_escape hescape).2
  | other hother _ ih => exact ih (hspace.of_other hother)

end Past

/-- Going over at least one character or escape of the text comes to `rest`. -/
def Beyond (cs rest : List Char) : Prop :=
  Past cs rest ∧ (unescape rest).length < (unescape cs).length

namespace Beyond

variable {cs ds rest : List Char}

theorem char {c : Char} (hc : c ≠ '\\') (h : Past cs rest) : Beyond (c :: cs) rest := by
  refine ⟨.char hc h, ?_⟩
  have := h.length_unescape_le
  rw [unescape_cons hc, List.length_cons]
  omega

theorem escape {after : List Char} {n : ℕ} (hescape : escaped? cs = some (n, after))
    (h : Past after rest) : Beyond ('\\' :: cs) rest := by
  refine ⟨.escape hescape h, ?_⟩
  have := h.length_unescape_le
  have := List.length_pos_iff.mpr (literalPattern_ne_nil n)
  rw [unescape_escape hescape, List.length_append]
  omega

theorem other (hother : escaped? cs = none) (h : Past cs rest) : Beyond ('\\' :: cs) rest := by
  refine ⟨.other hother h, ?_⟩
  have := h.length_unescape_le
  rw [unescape_other hother, List.length_cons]
  omega

theorem past (h : Beyond cs ds) (hrest : Past ds rest) : Beyond cs rest :=
  ⟨h.1.trans hrest, Nat.lt_of_le_of_lt hrest.length_unescape_le h.2⟩

theorem of_past (h : Past cs ds) (hrest : Beyond ds rest) : Beyond cs rest :=
  ⟨h.trans hrest.1, Nat.lt_of_lt_of_le hrest.2 h.length_unescape_le⟩

end Beyond

end BannerMatch.Probe
