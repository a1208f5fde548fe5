import BannerMatch.Proofs.Template.Reading

/-!
# Templates that refer to groups

Whether a template refers to a group is a matter of its reading, and what it resolves to depends on
the groups exactly then: `resolve_congr`, `exists_resolve_ne`.

`hasPlaceholder` looks at two characters at a time. It finds the references without zeros in front,
and it also takes the second sign of a doubled dollar sign for the start of a reference
(`hasPlaceholder_iff`). So it is right except for two kinds of templates, those in which all
references have zeros in front and those in which all it finds are doubled dollar signs:
`recognizes_iff`.
-/

namespace BannerMatch.Template

/-! ### References -/

/-- The number of a reference. -/
def Piece.number? : Piece → Option ℕ
  | .dollar digits =>
      if digits.all (· == '0') then none else some (Nat.ofDigitChars 10 digits 0)
  | _ => none

/-- The template refers to the group with a number. -/
def RefersTo (template : List Char) (n : ℕ) : Prop :=
  ∃ ps, Reads template ps ∧ ∃ p ∈ ps, p.number? = some n

/-- The test for references is right about a template: it finds a reference if there is one, and so
whether the groups make a difference. -/
structure Recognizes (template : List Char) : Prop where
  refers : hasPlaceholder template = true ↔ ∃ n, RefersTo template n
  constant : hasPlaceholder template = false → ∀ group group',
    resolve template group = resolve template group'
  varies : hasPlaceholder template = true → (∃ n < 2 ^ 64, RefersTo template n) →
    ∃ group group', resolve template group ≠ resolve template group'

theorem refersTo_iff {template : List Char} {ps : List Piece} (h : Reads template ps) (n : ℕ) :
    RefersTo template n ↔ ∃ p ∈ ps, p.number? = some n := by
  constructor
  · rintro ⟨qs, hqs, hn⟩
    rwa [hqs.unique h] at hn
  · exact fun hn => ⟨ps, h, hn⟩

/-! ### What depends on the groups -/

theorem Piece.meaning_of_number?_eq_none {p : Piece} (h : p.number? = none)
    (group group' : ℕ → Option (List Char)) : p.meaning group = p.meaning group' := by
  cases p with
  | plain c => rfl
  | doubled => rfl
  | dollar digits =>
    rw [number?] at h
    split at h
    · rename_i hzeros
      rw [meaning, meaning, if_pos hzeros, if_pos hzeros]
    · cases h

theorem Piece.meaning_of_number?_eq_some {p : Piece} {n : ℕ} (h : p.number? = some n)
    (group : ℕ → Option (List Char)) : p.meaning group = groupText group n := by
  cases p with
  | plain c => cases h
  | doubled => cases h
  | dollar digits =>
    rw [number?] at h
    split at h
    · cases h
    · rename_i hzeros
      cases h
      rw [meaning, if_neg hzeros]

/-- **Without references the groups make no difference.** -/
theorem resolve_congr {template : List Char} (h : ¬ ∃ n, RefersTo template n)
    (group group' : ℕ → Option (List Char)) :
    resolve template group = resolve template group' := by
  obtain ⟨ps, hps⟩ := exists_reads template
  rw [hps.resolve, hps.resolve]
  refine List.flatMap_congr fun p hp => Piece.meaning_of_number?_eq_none ?_ group group'
  rw [Option.eq_none_iff_forall_ne_some]
  exact fun n hn => h ⟨n, ps, hps, p, hp, hn⟩

/-- **A reference whose number has a place in 64 bits makes one**: with a text in every group the
template resolves to a longer text than without. -/
theorem exists_resolve_ne {template : List Char} {n : ℕ} (hn : n < 2 ^ 64)
    (h : RefersTo template n) : ∃ group group', resolve template group ≠ resolve template group' := by
  obtain ⟨ps, hps, p, hp, hnumber⟩ := h
  let absent : ℕ → Option (List Char) := fun _ => none
  let present : ℕ → Option (List Char) := fun _ => some ['x']
  have habsent : ∀ n, groupText absent n = [] := by
    intro n
    rw [groupText]
    split <;> rfl
  have hle : ∀ q ∈ ps, (q.meaning absent).length ≤ (q.meaning present).length := by
    intro q _
    cases hq : q.number? with
    | none => rw [Piece.meaning_of_number?_eq_none hq absent present]
    | some m =>
      rw [Piece.meaning_of_number?_eq_some hq, habsent]
      exact Nat.zero_le _
  have hlt : (p.meaning absent).length < (p.meaning present).length := by
    rw [Piece.meaning_of_number?_eq_some hnumber, Piece.meaning_of_number?_eq_some hnumber, habsent,
      groupText, if_pos hn]
    exact Nat.one_pos
  refine ⟨absent, present, fun heq => ?_⟩
  rw [hps.resolve, hps.resolve] at heq
  have hlength := List.sum_lt_sum _ _ hle ⟨p, hp, hlt⟩
  rw [← List.length_flatMap, ← List.length_flatMap, heq] at hlength
  exact lt_irrefl _ hlength

/-! ### What the test finds -/

/-- Whether a character is a digit other than zero. -/
def startsNumber (c : Char) : Bool := c.isDigit && c != '0'

/-- There is a reference without zeros in front. -/
def HasUnpadded (ps : List Piece) : Prop :=
  ∃ d digits, Piece.dollar (d :: digits) ∈ ps ∧ startsNumber d = true

/-- A digit other than zero comes right after a doubled dollar sign. -/
def HasDecoy (ps : List Piece) : Prop :=
  ∃ c, [.doubled, .plain c] <:+: ps ∧ startsNumber c = true

theorem hasPlaceholder_cons (c : Char) (rest : List Char) :
    hasPlaceholder (c :: rest) =
      (c == '$' && rest.head?.any startsNumber || hasPlaceholder rest) := by
  cases rest with
  | nil => simp [hasPlaceholder]
  | cons d rest =>
    rw [hasPlaceholder, Bool.and_assoc]
    rfl

/-- Digits are no dollar signs. -/
theorem hasPlaceholder_dropWhile (cs : List Char) :
    hasPlaceholder (cs.dropWhile Char.isDigit) = hasPlaceholder cs := by
  induction cs with
  | nil => rfl
  | cons c rest ih =>
    by_cases hdigit : c.isDigit
    · have hc : (c == '$') = false := by
        rw [beq_eq_false_iff_ne]
        rintro rfl
        exact absurd hdigit (by decide)
      rw [List.dropWhile_cons_of_pos hdigit, ih, hasPlaceholder_cons, hc, Bool.false_and,
        Bool.false_or]
    · rw [List.dropWhile_cons_of_neg hdigit]

/-- A digit other than zero comes first exactly if it is the first piece. -/
theorem Reads.head?_any_startsNumber {template : List Char} {ps : List Piece}
    (h : Reads template ps) :
    template.head?.any startsNumber = true ↔ ∃ c, [.plain c] <+: ps ∧ startsNumber c = true := by
  cases h with
  | nil => simp
  | plain hc _ => simp
  | doubled _ => simp [startsNumber]
  | dollar _ _ => simp [startsNumber]

theorem head?_any_takeWhile (cs : List Char) :
    cs.head?.any startsNumber = true ↔
      ∃ d digits, cs.takeWhile Char.isDigit = d :: digits ∧ startsNumber d = true := by
  cases cs with
  | nil => simp
  | cons c rest =>
    by_cases hdigit : c.isDigit
    · simp [List.takeWhile_cons_of_pos hdigit]
    · simp [List.takeWhile_cons_of_neg hdigit, startsNumber, hdigit]

section Cons

variable (ps : List Piece)

theorem hasUnpadded_dollar (digits : List Char) :
    HasUnpadded (.dollar digits :: ps) ↔
      (∃ d rest, digits = d :: rest ∧ startsNumber d = true) ∨ HasUnpadded ps := by
  rw [HasUnpadded, HasUnpadded]
  constructor
  · rintro ⟨d, rest, hmem, hd⟩
    rcases List.mem_cons.mp hmem with hfirst | hmem
    · exact .inl ⟨d, rest, (Piece.dollar.inj hfirst).symm, hd⟩
    · exact .inr ⟨d, rest, hmem, hd⟩
  · rintro (⟨d, rest, rfl, hd⟩ | ⟨d, rest, hmem, hd⟩)
    · exact ⟨d, rest, List.mem_cons_self, hd⟩
    · exact ⟨d, rest, List.mem_cons_of_mem _ hmem, hd⟩

theorem hasUnpadded_cons {p : Piece} (hp : ∀ digits, p ≠ .dollar digits) :
    HasUnpadded (p :: ps) ↔ HasUnpadded ps := by
  have hmem : ∀ digits, Piece.dollar digits ∈ p :: ps ↔ Piece.dollar digits ∈ ps :=
    fun digits => List.mem_cons.trans (or_iff_right fun h => hp digits h.symm)
  simp only [HasUnpadded, hmem]

theorem hasDecoy_doubled :
    HasDecoy (.doubled :: ps) ↔
      (∃ c, [.plain c] <+: ps ∧ startsNumber c = true) ∨ HasDecoy ps := by
  simp only [HasDecoy, List.infix_cons_iff, List.cons_prefix_cons, true_and, or_and_right,
    exists_or]

theorem hasDecoy_cons {p : Piece} (hp : p ≠ .doubled) :
    HasDecoy (p :: ps) ↔ HasDecoy ps := by
  simp only [HasDecoy, List.infix_cons_iff, List.cons_prefix_cons, hp.symm, false_and, false_or]

end Cons

/-- **What the test finds**: references without zeros in front, and doubled dollar signs before
digits other than zero. -/
theorem hasPlaceholder_iff {template : List Char} {ps : List Piece} (h : Reads template ps) :
    hasPlaceholder template = true ↔ HasUnpadded ps ∨ HasDecoy ps := by
  induction h with
  | nil => simp [hasPlaceholder, HasUnpadded, HasDecoy]
  | plain hc _ ih =>
    rw [hasPlaceholder_cons, beq_eq_false_iff_ne.mpr hc, Bool.false_and, Bool.false_or, ih,
      hasUnpadded_cons _ (by simp), hasDecoy_cons _ (by simp)]
  | doubled hrest ih =>
    -- of the two signs only the second one can be taken for the start of a reference
    rw [hasPlaceholder_cons, hasPlaceholder_cons, hasUnpadded_cons _ (by simp), hasDecoy_doubled,
      ← hrest.head?_any_startsNumber, or_left_comm, ← ih]
    simp [startsNumber]
  | dollar hsingle _ ih =>
    rw [hasPlaceholder_cons, Bool.or_eq_true, ← hasPlaceholder_dropWhile, ih, hasUnpadded_dollar,
      ← head?_any_takeWhile, hasDecoy_cons _ (by simp), or_assoc, beq_self_eq_true, Bool.true_and]

/-! ### When the test is right -/

/-- The template has references, all of them with zeros in front, and nothing else is taken for
one. -/
structure Overlooked (ps : List Piece) : Prop where
  refers : ∃ p ∈ ps, p.number?.isSome = true
  padded : ¬ HasUnpadded ps
  undisguised : ¬ HasDecoy ps

/-- The template has no reference, but something is taken for one. -/
structure Imagined (ps : List Piece) : Prop where
  plain : ∀ p ∈ ps, p.number? = none
  decoy : HasDecoy ps

/-- References without zeros in front are references. -/
theorem exists_number?_of_hasUnpadded {ps : List Piece} (h : HasUnpadded ps) :
    ∃ p ∈ ps, p.number?.isSome = true := by
  obtain ⟨d, digits, hmem, hd⟩ := h
  have hne : (d == '0') = false := by
    rw [startsNumber, Bool.and_eq_true, bne, Bool.not_eq_true'] at hd
    exact hd.2
  exact ⟨_, hmem, by simp [Piece.number?, hne]⟩

theorem recognizes_of_refers {template : List Char}
    (h : hasPlaceholder template = true ↔ ∃ n, RefersTo template n) : Recognizes template where
  refers := h
  constant hfound group group' := by
    refine resolve_congr (fun hrefers => ?_) group group'
    rw [h.mpr hrefers] at hfound
    cases hfound
  varies _ := fun ⟨_, hn, hrefers⟩ => exists_resolve_ne hn hrefers

/-- **The test is right about a template** unless all references in it have zeros in front, or it
has none and a doubled dollar sign comes before a digit other than zero. -/
theorem recognizes_iff (template : List Char) :
    ∃ ps, Reads template ps ∧
      (hasPlaceholder template = true ↔ HasUnpadded ps ∨ HasDecoy ps) ∧
      (Recognizes template ↔ ¬ Overlooked ps ∧ ¬ Imagined ps) := by
  obtain ⟨ps, hps⟩ := exists_reads template
  have hfound := hasPlaceholder_iff hps
  have hrefers : (∃ n, RefersTo template n) ↔ ∃ p ∈ ps, p.number?.isSome = true := by
    simp only [refersTo_iff hps, Option.isSome_iff_exists]
    exact ⟨fun ⟨n, p, hp, hn⟩ => ⟨p, hp, n, hn⟩, fun ⟨p, hp, n, hn⟩ => ⟨n, p, hp, hn⟩⟩
  refine ⟨ps, hps, hfound, fun h => ⟨fun hmissed => ?_, fun hseen => ?_⟩, ?_⟩
  · exact (hfound.mp (h.refers.mpr (hrefers.mpr hmissed.refers))).elim hmissed.padded
      hmissed.undisguised
  · obtain ⟨p, hp, hnumber⟩ := hrefers.mp (h.refers.mp (hfound.mpr (.inr hseen.decoy)))
    rw [hseen.plain p hp] at hnumber
    cases hnumber
  · rintro ⟨hmissed, hseen⟩
    refine recognizes_of_refers ?_
    rw [hfound, hrefers]
    constructor
    · rintro (hunpadded | hdecoy)
      · exact exists_number?_of_hasUnpadded hunpadded
      · by_contra hnone
        refine hseen ⟨fun p hp => ?_, hdecoy⟩
        exact Option.not_isSome_iff_eq_none.mp fun hp' => hnone ⟨p, hp, hp'⟩
    · intro hsome
      by_contra hnone
      exact hmissed ⟨hsome, fun h => hnone (.inl h), fun h => hnone (.inr h)⟩

/-- A doubled dollar sign before a digit is taken for a reference, and a number with a zero in front
is not. -/
theorem not_recognizes_decoy_padded :
    ¬ Recognizes ['$', '$', '1'] ∧ ¬ Recognizes ['$', '0', '1'] := by
  constructor
  · intro h
    obtain ⟨n, hn⟩ := h.refers.mp (by decide)
    have hreads : Reads ['$', '$', '1'] [.doubled, .plain '1'] := .doubled (.plain (by decide) .nil)
    simp [refersTo_iff hreads, Piece.number?] at hn
  · intro h
    have hreads : Reads ['$', '0', '1'] [.dollar ['0', '1']] := .dollar (by decide) .nil
    have hrefers : RefersTo ['$', '0', '1'] 1 :=
      ⟨_, hreads, _, List.mem_singleton_self _, by decide⟩
    exact absurd (h.refers.mpr ⟨1, hrefers⟩) (by decide)

end BannerMatch.Template
