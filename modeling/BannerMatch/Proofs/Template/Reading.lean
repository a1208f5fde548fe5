import BannerMatch.Template
import Mathlib.Data.List.TakeWhile
import Mathlib.Data.PNat.Basic
import Mathlib.Tactic

/-!
# Reading and writing templates

A template is read from left to right as a list of pieces: characters, doubled dollar signs, and
dollar signs with all digits that follow them (`Reads`). There is exactly one reading
(`exists_reads`, `Reads.unique`), and resolving a template comes to replacing each piece by its
meaning (`Reads.resolve`).

A template is written from literals and references. As long as no digit comes right after a
reference, the pieces that are read are those that were written (`reads_written`), so resolving
gives the literals and the texts of the groups. If one does, it counts to the number before it, and
is lost when there is no group (`keepsApart_of_resolve`). That no literal next to a reference starts
with a digit is not enough, since an empty one keeps nothing apart: `not_resolve_written_separated`.
-/

namespace BannerMatch.Template

/-! ### Pieces -/

/-- A piece of a template. -/
inductive Piece
  /-- A character other than a dollar sign. -/
  | plain (c : Char)
  /-- Two dollar signs. -/
  | doubled
  /-- A dollar sign with the digits that follow it; there may be none. -/
  | dollar (digits : List Char)
deriving DecidableEq, Repr

/-- The pieces of a template from left to right. -/
inductive Reads : List Char → List Piece → Prop
  | nil : Reads [] []
  | plain {c : Char} {rest : List Char} {ps : List Piece} (hc : c ≠ '$') (h : Reads rest ps) :
      Reads (c :: rest) (.plain c :: ps)
  | doubled {rest : List Char} {ps : List Piece} (h : Reads rest ps) :
      Reads ('$' :: '$' :: rest) (.doubled :: ps)
  /-- As many digits as there are belong to a single dollar sign. -/
  | dollar {rest : List Char} {ps : List Piece} (hsingle : rest.head? ≠ some '$')
      (h : Reads (rest.dropWhile Char.isDigit) ps) :
      Reads ('$' :: rest) (.dollar (rest.takeWhile Char.isDigit) :: ps)

/-- Every template can be read, -/
theorem exists_reads (template : List Char) : ∃ ps, Reads template ps := by
  induction hn : template.length using Nat.strong_induction_on generalizing template with
  | _ n ih =>
    subst hn
    cases template with
    | nil => exact ⟨[], .nil⟩
    | cons c rest =>
      by_cases hc : c = '$'
      · subst hc
        by_cases hsingle : rest.head? = some '$'
        · obtain ⟨rest, rfl⟩ := List.head?_eq_some_iff.mp hsingle
          obtain ⟨ps, hps⟩ := ih rest.length (by simp) rest rfl
          exact ⟨_, .doubled hps⟩
        · have hshorter : (rest.dropWhile Char.isDigit).length ≤ rest.length :=
            (List.dropWhile_sublist _).length_le
          obtain ⟨ps, hps⟩ := ih _ (Nat.lt_succ_of_le hshorter) _ rfl
          exact ⟨_, .dollar hsingle hps⟩
      · obtain ⟨ps, hps⟩ := ih rest.length (by simp) rest rfl
        exact ⟨_, .plain hc hps⟩

/-- and in one way only. -/
theorem Reads.unique {template : List Char} {ps qs : List Piece} (hps : Reads template ps)
    (hqs : Reads template qs) : ps = qs := by
  induction hps generalizing qs with
  | nil =>
    cases hqs
    rfl
  | plain hc _ ih =>
    cases hqs with
    | plain _ h => rw [ih h]
    | doubled _ => exact absurd rfl hc
    | dollar _ _ => exact absurd rfl hc
  | doubled _ ih =>
    cases hqs with
    | plain hc _ => exact absurd rfl hc
    | doubled h => rw [ih h]
    | dollar hsingle _ => exact absurd rfl hsingle
  | dollar hsingle _ ih =>
    cases hqs with
    | plain hc _ => exact absurd rfl hc
    | doubled _ => exact absurd rfl hsingle
    | dollar _ h => rw [ih h]

/-! ### What pieces stand for -/

/-- The text of a group. A group that took no part has none, and a number that has no place in 64
bits is that of no group. -/
def groupText (group : ℕ → Option (List Char)) (n : ℕ) : List Char :=
  if n < 2 ^ 64 then (group n).getD [] else []

/-- What a piece stands for: a dollar sign before zeros, or before no digit at all, for itself. -/
def Piece.meaning (group : ℕ → Option (List Char)) : Piece → List Char
  | .plain c => [c]
  | .doubled => ['$']
  | .dollar digits =>
      if digits.all (· == '0') then '$' :: digits
      else groupText group (Nat.ofDigitChars 10 digits 0)

theorem numberOf_reverse (digits : List Char) :
    numberOf digits.reverse = Nat.ofDigitChars 10 digits 0 := by
  rw [numberOf, List.foldr_reverse]
  rfl

theorem isDigit_iff {c : Char} : c.isDigit = true ↔ 48 ≤ c.toNat ∧ c.toNat ≤ 57 := by
  rw [Char.isDigit, Bool.and_eq_true, decide_eq_true_iff, decide_eq_true_iff]
  exact Iff.rfl

theorem ofDigitChars_eq_zero_iff {digits : List Char} (hdigits : ∀ d ∈ digits, d.isDigit = true)
    (n : ℕ) :
    Nat.ofDigitChars 10 digits n = 0 ↔ n = 0 ∧ ∀ d ∈ digits, d = '0' := by
  induction digits generalizing n with
  | nil => simp [Nat.ofDigitChars]
  | cons d rest ih =>
    obtain ⟨hd, hrest⟩ := List.forall_mem_cons.mp hdigits
    have hzero : d.toNat = 48 ↔ d = '0' :=
      ⟨fun h => Char.toNat_inj.mp h, fun h => congrArg Char.toNat h⟩
    have hlow := (isDigit_iff.mp hd).1
    rw [Nat.ofDigitChars_cons, ih hrest, List.forall_mem_cons, ← hzero, ← and_assoc]
    refine and_congr_left fun _ => ?_
    show 10 * n + (d.toNat - 48) = 0 ↔ _
    omega

/-- Digits spell zero exactly if all of them are zeros. -/
theorem ofDigitChars_eq_zero_iff_all {digits : List Char}
    (hdigits : ∀ d ∈ digits, d.isDigit = true) :
    Nat.ofDigitChars 10 digits 0 = 0 ↔ digits.all (· == '0') = true := by
  rw [ofDigitChars_eq_zero_iff hdigits, List.all_eq_true]
  simp

theorem reference_reverse (group : ℕ → Option (List Char)) {digits : List Char}
    (hdigits : ∀ d ∈ digits, d.isDigit = true) :
    reference group digits.reverse = (Piece.dollar digits).meaning group := by
  have hbound : groupBound = 2 ^ 64 := by decide
  rw [reference, Piece.meaning, numberOf_reverse, List.reverse_reverse, groupText, hbound]
  simp only [ofDigitChars_eq_zero_iff_all hdigits]

/-! ### Resolving piece by piece -/

section Resolve

variable (group : ℕ → Option (List Char))

@[simp] theorem resolve_nil : resolve [] group = [] := rfl

theorem resolve_plain {c : Char} (hc : c ≠ '$') (rest : List Char) :
    resolve (c :: rest) group = c :: resolve rest group := by
  rw [resolve, resolveFrom, if_neg hc, resolve]

@[simp] theorem resolve_doubled (rest : List Char) :
    resolve ('$' :: '$' :: rest) group = '$' :: resolve rest group := by
  rw [resolve, resolveFrom, if_pos rfl, resolveFrom, if_pos rfl, resolve]

/-- Digits are taken up one by one until something else comes. -/
theorem resolveFrom_number (ds cs : List Char) :
    resolveFrom group (.number ds) cs =
      reference group ((cs.takeWhile Char.isDigit).reverse ++ ds) ++
        resolve (cs.dropWhile Char.isDigit) group := by
  induction cs generalizing ds with
  | nil => simp [resolveFrom]
  | cons c rest ih =>
    rw [resolveFrom]
    by_cases hdigit : c.isDigit
    · rw [if_pos hdigit, ih, List.takeWhile_cons_of_pos hdigit, List.dropWhile_cons_of_pos hdigit,
        List.reverse_cons, List.append_assoc]
      rfl
    · rw [if_neg hdigit, List.takeWhile_cons_of_neg hdigit, List.dropWhile_cons_of_neg hdigit]
      by_cases hc : c = '$'
      · rw [if_pos hc, resolve, resolveFrom, if_pos hc]
        rfl
      · rw [if_neg hc, resolve_plain group hc]
        rfl

theorem resolve_dollar {rest : List Char} (hsingle : rest.head? ≠ some '$') :
    resolve ('$' :: rest) group =
      (Piece.dollar (rest.takeWhile Char.isDigit)).meaning group ++
        resolve (rest.dropWhile Char.isDigit) group := by
  rw [resolve, resolveFrom, if_pos rfl]
  cases rest with
  | nil => rfl
  | cons c rest =>
    have hc : c ≠ '$' := fun h => hsingle (congrArg some h)
    rw [resolveFrom, if_neg hc]
    by_cases hdigit : c.isDigit
    · have hdigits : ∀ d ∈ (c :: rest).takeWhile Char.isDigit, d.isDigit = true :=
        fun d hd => List.mem_takeWhile_imp hd
      rw [if_pos hdigit, resolveFrom_number, ← reference_reverse group hdigits,
        List.takeWhile_cons_of_pos hdigit, List.dropWhile_cons_of_pos hdigit, List.reverse_cons]
    · rw [if_neg hdigit, List.takeWhile_cons_of_neg hdigit, List.dropWhile_cons_of_neg hdigit,
        resolve_plain group hc]
      rfl

/-- **Resolving replaces each piece by what it stands for.** -/
theorem Reads.resolve {template : List Char} {ps : List Piece} (h : Reads template ps) :
    resolve template group = ps.flatMap (Piece.meaning group) := by
  induction h with
  | nil => rfl
  | plain hc _ ih =>
    rw [resolve_plain group hc, ih]
    rfl
  | doubled _ ih =>
    rw [resolve_doubled, ih]
    rfl
  | dollar hsingle _ ih => rw [resolve_dollar group hsingle, ih, List.flatMap_cons]

end Resolve

/-! ### Writing templates -/

/-- What templates are written from. -/
inductive Part
  | literal (text : List Char)
  /-- A group, with zeros in front of its number. -/
  | reference (zeros : ℕ) (number : ℕ+)
deriving DecidableEq, Repr

/-- The digits of a reference. -/
def paddedDigits (zeros number : ℕ) : List Char :=
  List.replicate zeros '0' ++ Nat.toDigits 10 number

namespace Part

/-- How a part is written: dollar signs of a literal are doubled. -/
def written : Part → List Char
  | .literal text => text.flatMap fun c => if c = '$' then ['$', '$'] else [c]
  | .reference zeros number => '$' :: paddedDigits zeros number

/-- The pieces that a part is written as. -/
def pieces : Part → List Piece
  | .literal text => text.map fun c => if c = '$' then .doubled else .plain c
  | .reference zeros number => [.dollar (paddedDigits zeros number)]

/-- What a part stands for. -/
def meaning (group : ℕ → Option (List Char)) : Part → List Char
  | .literal text => text
  | .reference _ number => groupText group number

end Part

/-- The template that is written from parts. -/
def written (parts : List Part) : List Char := parts.flatMap Part.written

/-- Whether a part may stand right before another one: a literal that starts with a digit may not
follow a reference. -/
def Part.mayPrecede : Part → Part → Bool
  | .reference _ _, .literal (c :: _) => !c.isDigit
  | _, _ => true

/-- No literal right after a reference starts with a digit. -/
def Separated (parts : List Part) : Prop :=
  parts.IsChain fun part next => part.mayPrecede next = true

/-- The parts that write something. -/
def withoutEmpty (parts : List Part) : List Part := parts.filter fun part => part ≠ .literal []

/-- Whether the first character that parts stand for is a digit of a literal. An empty literal
keeps nothing apart, so the literal after it counts. -/
def opensWithDigit : List Part → Bool
  | .literal [] :: rest => opensWithDigit rest
  | .literal (c :: _) :: _ => c.isDigit
  | _ => false

/-- Whether no digit of a literal comes right after a reference. -/
def keepsApart : List Part → Bool
  | [] => true
  | .literal _ :: rest => keepsApart rest
  | .reference _ _ :: rest => !opensWithDigit rest && keepsApart rest

/-! ### Digits of references -/

theorem isDigit_of_mem_paddedDigits (zeros number : ℕ) :
    ∀ d ∈ paddedDigits zeros number, d.isDigit = true := by
  intro d hd
  rcases List.mem_append.mp hd with hzero | hd
  · rw [List.eq_of_mem_replicate hzero]
    decide
  · exact Nat.isDigit_of_mem_toDigits (by decide) (by decide) hd

theorem ofDigitChars_paddedDigits (zeros number : ℕ) :
    Nat.ofDigitChars 10 (paddedDigits zeros number) 0 = number := by
  induction zeros with
  | zero => exact Nat.ofDigitChars_toDigits (by decide) (by decide)
  | succ zeros ih => rwa [paddedDigits, List.replicate_succ, List.cons_append, Nat.ofDigitChars_cons]

theorem head?_paddedDigits_append_ne (zeros number : ℕ) (rest : List Char) :
    (paddedDigits zeros number ++ rest).head? ≠ some '$' := by
  have hne : paddedDigits zeros number ≠ [] :=
    List.append_ne_nil_of_right_ne_nil _ (Nat.toDigits_ne_nil)
  obtain ⟨d, ds, hds⟩ := List.exists_cons_of_ne_nil hne
  have hd : d.isDigit = true := isDigit_of_mem_paddedDigits _ _ d (hds ▸ List.mem_cons_self)
  rw [hds]
  rintro ⟨⟩
  exact absurd hd (by decide)

/-- A reference stands for its group, whatever zeros are in front. -/
theorem meaning_paddedDigits (group : ℕ → Option (List Char)) (zeros : ℕ) (number : ℕ+) :
    (Piece.dollar (paddedDigits zeros number)).meaning group = groupText group number := by
  have hnumber := ofDigitChars_paddedDigits zeros number
  have hzeros : ¬ (paddedDigits zeros number).all (· == '0') = true := by
    rw [← ofDigitChars_eq_zero_iff_all (isDigit_of_mem_paddedDigits _ _), hnumber]
    exact number.ne_zero
  rw [Piece.meaning, if_neg hzeros, hnumber]

/-! ### Reading what was written -/

theorem opensWithDigit_eq (parts : List Part) :
    opensWithDigit parts = (written parts).head?.any Char.isDigit := by
  induction parts with
  | nil => rfl
  | cons part rest ih =>
    cases part with
    | reference zeros number => rfl
    | literal text =>
      cases text with
      | nil => exact ih
      | cons c text =>
        show c.isDigit = _
        by_cases hc : c = '$'
        · simp [written, Part.written, hc]
        · simp [written, Part.written, hc]

theorem opensWithDigit_withoutEmpty (parts : List Part) :
    opensWithDigit (withoutEmpty parts) = opensWithDigit parts := by
  induction parts with
  | nil => rfl
  | cons part rest ih =>
    rcases part with (_ | ⟨c, text⟩) | ⟨zeros, number⟩
    · exact ih
    · rfl
    · rfl

theorem keepsApart_withoutEmpty (parts : List Part) :
    keepsApart (withoutEmpty parts) = keepsApart parts := by
  induction parts with
  | nil => rfl
  | cons part rest ih =>
    rcases part with (_ | ⟨c, text⟩) | ⟨zeros, number⟩
    · exact ih
    · exact ih
    · have hopens := opensWithDigit_withoutEmpty rest
      rw [withoutEmpty] at hopens ih
      rw [withoutEmpty, List.filter_cons_of_pos (by simp), keepsApart, keepsApart, hopens, ih]

/-- If no literal is empty, the neighbours of references decide. -/
theorem keepsApart_iff_separated {parts : List Part} (hparts : .literal [] ∉ parts) :
    keepsApart parts = true ↔ Separated parts := by
  rw [Separated]
  induction parts with
  | nil => simp [keepsApart]
  | cons part rest ih =>
    obtain ⟨-, hrest⟩ := not_or.mp (List.mem_cons.not.mp hparts)
    rw [List.isChain_cons, ← ih hrest]
    cases part with
    | literal text => simp [keepsApart, Part.mayPrecede]
    | reference zeros number =>
      rw [keepsApart, Bool.and_eq_true]
      refine and_congr_left fun _ => ?_
      rcases rest with _ | ⟨(_ | ⟨c, text⟩) | ⟨zeros, number⟩, rest⟩
      · simp [opensWithDigit]
      · exact absurd List.mem_cons_self hrest
      · simp [opensWithDigit, Part.mayPrecede]
      · simp [opensWithDigit, Part.mayPrecede]

theorem keepsApart_iff_separated_withoutEmpty (parts : List Part) :
    keepsApart parts = true ↔ Separated (withoutEmpty parts) := by
  rw [← keepsApart_withoutEmpty]
  exact keepsApart_iff_separated (by simp [withoutEmpty])

/-- A literal is read as it was written, whatever follows. -/
theorem reads_literal {rest : List Char} {ps : List Piece} (h : Reads rest ps) (text : List Char) :
    Reads ((Part.literal text).written ++ rest) ((Part.literal text).pieces ++ ps) := by
  induction text with
  | nil => exact h
  | cons c text ih =>
    by_cases hc : c = '$'
    · simpa [Part.written, Part.pieces, hc] using Reads.doubled ih
    · simpa [Part.written, Part.pieces, hc] using Reads.plain hc ih

/-- A reference is read as it was written, unless a digit follows. -/
theorem reads_reference {rest : List Char} {ps : List Piece} (h : Reads rest ps)
    (hrest : rest.head?.any Char.isDigit = false) (zeros : ℕ) (number : ℕ+) :
    Reads ((Part.reference zeros number).written ++ rest)
      ((Part.reference zeros number).pieces ++ ps) := by
  have hnone : rest.takeWhile Char.isDigit = [] ∧ rest.dropWhile Char.isDigit = rest := by
    cases rest with
    | nil => exact ⟨rfl, rfl⟩
    | cons c rest =>
      have hc : ¬ c.isDigit = true := by simpa using hrest
      exact ⟨List.takeWhile_cons_of_neg hc, List.dropWhile_cons_of_neg hc⟩
  have hdigits := isDigit_of_mem_paddedDigits zeros number
  have htake : (paddedDigits zeros number ++ rest).takeWhile Char.isDigit =
      paddedDigits zeros number := by
    rw [List.takeWhile_append_of_pos hdigits, hnone.1, List.append_nil]
  have hdrop : (paddedDigits zeros number ++ rest).dropWhile Char.isDigit = rest := by
    rw [List.dropWhile_append_of_pos hdigits, hnone.2]
  rw [← hdrop] at h
  have hread := Reads.dollar (head?_paddedDigits_append_ne zeros number rest) h
  rwa [htake] at hread

/-- **The pieces that are read are those that were written.** -/
theorem reads_written {parts : List Part} (hparts : keepsApart parts = true) :
    Reads (written parts) (parts.flatMap Part.pieces) := by
  induction parts with
  | nil => exact .nil
  | cons part rest ih =>
    cases part with
    | literal text => exact reads_literal (ih hparts) text
    | reference zeros number =>
      rw [keepsApart, Bool.and_eq_true, Bool.not_eq_true', opensWithDigit_eq] at hparts
      exact reads_reference (ih hparts.2) hparts.1 zeros number

theorem meaning_pieces (group : ℕ → Option (List Char)) (part : Part) :
    part.pieces.flatMap (Piece.meaning group) = part.meaning group := by
  cases part with
  | reference zeros number =>
    rw [Part.pieces, List.flatMap_singleton, meaning_paddedDigits]
    rfl
  | literal text =>
    rw [Part.pieces, Part.meaning]
    induction text with
    | nil => rfl
    | cons c text ih =>
      rw [List.map_cons, List.flatMap_cons, ih]
      by_cases hc : c = '$'
      · rw [if_pos hc, hc]
        rfl
      · rw [if_neg hc]
        rfl

/-- If digits keep away from references, resolving undoes writing. -/
theorem resolve_written {parts : List Part} (hparts : keepsApart parts = true)
    (group : ℕ → Option (List Char)) :
    resolve (written parts) group = parts.flatMap (Part.meaning group) := by
  rw [(reads_written hparts).resolve, List.flatMap_assoc]
  exact congrArg parts.flatMap (funext fun part => meaning_pieces group part)

/-! ### Digits after references -/

/-- Digits that come first stand for themselves. -/
theorem resolve_eq_takeWhile_append (group : ℕ → Option (List Char)) (template : List Char) :
    resolve template group =
      template.takeWhile Char.isDigit ++ resolve (template.dropWhile Char.isDigit) group := by
  induction template with
  | nil => rfl
  | cons c rest ih =>
    by_cases hdigit : c.isDigit
    · have hc : c ≠ '$' := by
        rintro rfl
        exact absurd hdigit (by decide)
      rw [List.takeWhile_cons_of_pos hdigit, List.dropWhile_cons_of_pos hdigit,
        resolve_plain group hc, ih, List.cons_append]
    · rw [List.takeWhile_cons_of_neg hdigit, List.dropWhile_cons_of_neg hdigit, List.nil_append]

theorem resolve_literal (group : ℕ → Option (List Char)) (text rest : List Char) :
    resolve ((Part.literal text).written ++ rest) group = text ++ resolve rest group := by
  obtain ⟨ps, hps⟩ := exists_reads rest
  rw [(reads_literal hps text).resolve, hps.resolve, List.flatMap_append, meaning_pieces]
  rfl

/-- Without any group, a reference and the digits after it stand for nothing. -/
theorem resolve_reference_absent (zeros : ℕ) (number : ℕ+) (rest : List Char) :
    resolve ((Part.reference zeros number).written ++ rest) (fun _ => none) =
      resolve (rest.dropWhile Char.isDigit) fun _ => none := by
  have hdigits := isDigit_of_mem_paddedDigits zeros number
  have hsingle := head?_paddedDigits_append_ne zeros number rest
  have hzeros :
      ¬ (paddedDigits zeros number ++ rest.takeWhile Char.isDigit).all (· == '0') = true := by
    rw [List.all_append, Bool.and_eq_true, not_and_or]
    left
    rw [← ofDigitChars_eq_zero_iff_all hdigits, ofDigitChars_paddedDigits]
    exact number.ne_zero
  show resolve ('$' :: (paddedDigits zeros number ++ rest)) _ = _
  rw [resolve_dollar _ hsingle, List.takeWhile_append_of_pos hdigits,
    List.dropWhile_append_of_pos hdigits, Piece.meaning, if_neg hzeros, groupText]
  simp

/-- Without any group, what is left is no longer than the literals, and as long only if no digit is
lost. -/
theorem length_resolve_written_absent (parts : List Part) :
    let found := (resolve (written parts) fun _ => none).length
    let meant := (parts.flatMap (Part.meaning fun _ => none)).length
    found ≤ meant ∧ (found = meant → keepsApart parts = true) := by
  induction parts with
  | nil => exact ⟨Nat.le_refl _, fun _ => rfl⟩
  | cons part rest ih =>
    obtain ⟨hle, heq⟩ := ih
    rw [written] at hle heq
    cases part with
    | literal text =>
      simp only [written, List.flatMap_cons, resolve_literal, List.length_append, Part.meaning,
        keepsApart]
      exact ⟨Nat.add_le_add_left hle _, fun h => heq (Nat.add_left_cancel h)⟩
    | reference zeros number =>
      have hsplit := congrArg List.length
        (resolve_eq_takeWhile_append (fun _ => none) (rest.flatMap Part.written))
      rw [List.length_append] at hsplit
      have hmeant : (Part.reference zeros number).meaning (fun _ => none) = [] := by
        simp [Part.meaning, groupText]
      simp only [written, List.flatMap_cons, resolve_reference_absent, hmeant, List.nil_append]
      refine ⟨by omega, fun h => ?_⟩
      have hnone : (rest.flatMap Part.written).takeWhile Char.isDigit = [] :=
        List.eq_nil_of_length_eq_zero (by omega)
      have hopens : opensWithDigit rest = false := by
        rw [opensWithDigit_eq, written]
        cases htemplate : rest.flatMap Part.written with
        | nil => rfl
        | cons c cs =>
          rw [htemplate, List.takeWhile_cons] at hnone
          simpa using hnone
      rw [keepsApart, hopens, heq (by omega)]
      rfl

/-- **A digit after a reference is lost** when there is no group. -/
theorem keepsApart_of_resolve {parts : List Part}
    (h : resolve (written parts) (fun _ => none) = parts.flatMap (Part.meaning fun _ => none)) :
    keepsApart parts = true :=
  (length_resolve_written_absent parts).2 (congrArg List.length h)

/-- **Resolving undoes writing** exactly if, empty literals left out, no literal right after a
reference starts with a digit: it gives the literals as they were, and for each reference the text
of its group, as it is. And in every template, read from left to right, a dollar sign that is not
doubled is kept with the digits after it if none of these is other than zero. -/
theorem resolve_written_and_read :
    (∀ parts, (∀ group, resolve (written parts) group = parts.flatMap (Part.meaning group)) ↔
      Separated (withoutEmpty parts)) ∧
    ∀ template, ∃ ps, (∀ qs, Reads template qs ↔ qs = ps) ∧ ∀ group,
      resolve template group = ps.flatMap (Piece.meaning group) := by
  refine ⟨fun parts => ?_, fun template => ?_⟩
  · rw [← keepsApart_iff_separated_withoutEmpty]
    exact ⟨fun h => keepsApart_of_resolve (h _), resolve_written⟩
  · obtain ⟨ps, hps⟩ := exists_reads template
    refine ⟨ps, fun qs => ⟨fun hqs => hqs.unique hps, ?_⟩, fun group => hps.resolve group⟩
    rintro rfl
    exact hps

/-- A literal that looks like a reference before one, a dollar sign after a reference, zeros in
front, an empty literal, the first number without a place in 64 bits, and an absent group. -/
def trickyParts : List Part :=
  [.literal ['a', '$', '1'], .reference 0 1, .literal ['$', '5'], .reference 2 12, .literal [],
    .literal ['-'], .reference 0 18446744073709551616, .reference 0 3]

/-- The text of one group looks like a reference, too. -/
def trickyGroups (n : ℕ) : Option (List Char) :=
  if n = 1 then some ['$', '2'] else if n = 12 then some ['l'] else none

theorem resolve_written_trickyParts :
    Separated (withoutEmpty trickyParts) ∧
      String.ofList (written trickyParts) = "a$$1$1$$5$0012-$18446744073709551616$3" ∧
      String.ofList (resolve (written trickyParts) trickyGroups) = "a$1$2$5l-" := by
  have hseparated : Separated (withoutEmpty trickyParts) :=
    (keepsApart_iff_separated_withoutEmpty trickyParts).mp (by decide)
  refine ⟨hseparated, by decide +kernel, ?_⟩
  rw [(resolve_written_and_read.1 trickyParts).mpr hseparated trickyGroups]
  decide +kernel

/-- **An empty literal keeps nothing apart**: behind it, a digit counts to the number of the
reference before it. So it is not enough that no literal right after a reference starts with a
digit. -/
theorem not_resolve_written_separated :
    let parts : List Part := [.reference 0 1, .literal [], .literal ['5']]
    let group : ℕ → Option (List Char) := fun n => if n = 1 then some ['x'] else none
    Separated parts ∧ String.ofList (written parts) = "$15" ∧ resolve (written parts) group = [] ∧
      parts.flatMap (Part.meaning group) = ['x', '5'] ∧
      ¬ ∀ parts, Separated parts → ∀ group,
        resolve (written parts) group = parts.flatMap (Part.meaning group) := by
  intro parts group
  have hseparated : Separated parts := by simp [Separated, parts, Part.mayPrecede]
  have hfound : resolve (written parts) group = [] := by decide +kernel
  have hmeant : parts.flatMap (Part.meaning group) = ['x', '5'] := by decide +kernel
  refine ⟨hseparated, by decide +kernel, hfound, hmeant, fun h => ?_⟩
  have hall := h parts hseparated group
  rw [hfound, hmeant] at hall
  cases hall

end BannerMatch.Template
