import BannerMatch.Rule.Compiled
import Mathlib.Tactic

/-!
# Identifiers of compiled rules

An identifier that is assigned is never in use: of the `n + 1` numbers that `drawUnused` looks at,
one is free of `n` names (`drawUnused_not_mem`).

A batch is compiled with all identifiers in use that its rules give themselves, so only those can
meet: the identifiers of a compiled batch are distinct exactly if no two of its valid rules give
themselves the same one (`nodup_ids_compileBatch_iff`).
-/

namespace BannerMatch

theorem toString_nat_injective : Function.Injective (toString : ℕ → String) := by
  intro m n h
  have hdigits : Nat.toDigits 10 m = Nat.toDigits 10 n := by
    simpa only [Nat.toString_eq_repr, Nat.toList_repr] using congrArg String.toList h
  simpa using congrArg (fun digits => Nat.ofDigitChars 10 digits 0) hdigits

namespace IdSource

variable (s : IdSource) (taken : List String)

theorem name_injective : Function.Injective s.name := fun _ _ h =>
  toString_nat_injective ((String.append_right_inj _).mp h)

/-- The numbers that are passed over have names in use, and the search ends at a free name unless
the fuel runs out first. -/
theorem unusedFrom_cases (fuel n : ℕ) :
    ∃ k, s.unusedFrom taken fuel n = n + k ∧ (∀ i < k, s.name (n + i) ∈ taken) ∧
      (s.name (n + k) ∉ taken ∨ k = fuel) := by
  induction fuel generalizing n with
  | zero => exact ⟨0, rfl, by simp, Or.inr rfl⟩
  | succ fuel ih =>
    rw [unusedFrom]
    split
    · rename_i hused
      obtain ⟨k, hk, hpassed, hend⟩ := ih (n + 1)
      have hshift : ∀ i, n + 1 + i = n + (i + 1) := fun i => by omega
      simp only [hshift] at hk hpassed hend
      refine ⟨k + 1, hk, fun i hi => ?_, hend.imp_right fun h => by omega⟩
      cases i with
      | zero => simpa using hused
      | succ i => exact hpassed i (by omega)
    · rename_i hfree
      exact ⟨0, rfl, by simp, Or.inl (by simpa using hfree)⟩

/-- Numbers one after the other whose names are all in use are at most as many as those names. -/
theorem le_card_of_names_mem (n : ℕ) {k : ℕ} (h : ∀ i < k, s.name (n + i) ∈ taken) :
    k ≤ taken.toFinset.card := by
  have hinjective : Function.Injective fun i => s.name (n + i) :=
    fun i j hij => Nat.add_left_cancel (s.name_injective hij)
  have hsubset : (Finset.range k).image (fun i => s.name (n + i)) ⊆ taken.toFinset := by
    intro name hname
    obtain ⟨i, hi, rfl⟩ := Finset.mem_image.mp hname
    exact List.mem_toFinset.mpr (h i (Finset.mem_range.mp hi))
  have hcard := Finset.card_le_card hsubset
  rwa [Finset.card_image_of_injective _ hinjective, Finset.card_range] at hcard

/-- `n + 1` names are too many for a list of `n`. -/
theorem exists_name_not_mem (n : ℕ) : ∃ i ≤ taken.length, s.name (n + i) ∉ taken := by
  by_contra hall
  push Not at hall
  have hcard := s.le_card_of_names_mem taken n fun i hi => hall i (Nat.lt_succ_iff.mp hi)
  have hlength := taken.toFinset_card_le
  omega

/-- **An identifier that is drawn is not in use.** -/
theorem drawUnused_not_mem : (s.drawUnused taken).1 ∉ taken := by
  obtain ⟨k, hk, hpassed, hend⟩ := s.unusedFrom_cases taken taken.length s.next
  rw [drawUnused, hk]
  rcases hend with hfree | rfl
  · exact hfree
  · -- all names before the last one are in use, so the last one is the free one
    obtain ⟨i, hi, hfree⟩ := s.exists_name_not_mem taken s.next
    rcases hi.lt_or_eq with hlt | rfl
    · exact absurd (hpassed i hlt) hfree
    · exact hfree

/-- The number that is found: those before it have names in use, and its own name is not. -/
theorem exists_drawUnused_eq :
    ∃ k, s.drawUnused taken = (s.name (s.next + k), s.after (s.next + k)) ∧
      (∀ i < k, s.name (s.next + i) ∈ taken) ∧ s.name (s.next + k) ∉ taken := by
  obtain ⟨k, hk, hpassed, -⟩ := s.unusedFrom_cases taken taken.length s.next
  have hfree := s.drawUnused_not_mem taken
  rw [drawUnused, hk] at hfree ⊢
  exact ⟨k, rfl, hpassed, hfree⟩

end IdSource

/-! ### Batches -/

/-- Whether the fields of a rule are valid. -/
def Rule.hasValidFields (r : Rule) : Bool :=
  match r.checkFields with
  | .ok _ => true
  | .error _ => false

/-- The identifiers of the rules of a batch. -/
def Batch.ids (b : Batch) : List String := b.rules.map CompiledRule.id

variable {defaults : RuleDefaults} {taken : List String} {ids : IdSource}

/-- A rule keeps the identifier that it gives itself, and gets a new one otherwise. -/
theorem Rule.id_compile (r : Rule) :
    (r.compile defaults taken ids).1.id =
      if r.hasBlankId then (ids.drawUnused taken).1 else r.id := by
  rw [Rule.compile, Rule.complete, CompiledRule.id]
  split
  · rfl
  · rfl

/-- A rule does not get an identifier that is in use, unless it gives itself one. -/
theorem Rule.id_compile_not_mem {r : Rule} (hfree : r.id ∉ taken) :
    (r.compile defaults taken ids).1.id ∉ taken := by
  rw [Rule.id_compile]
  split
  · exact ids.drawUnused_not_mem _
  · exact hfree

/-- The identifiers that the valid rules of a list give themselves. -/
def validIds (rules : List Rule) : List String := givenIds (rules.filter Rule.hasValidFields)

theorem validIds_cons_of_invalid {r : Rule} (hr : r.hasValidFields = false) (rules : List Rule) :
    validIds (r :: rules) = validIds rules := by
  simp [validIds, hr]

theorem validIds_cons_of_blank {r : Rule} (hr : r.hasBlankId = true) (rules : List Rule) :
    validIds (r :: rules) = validIds rules := by
  cases hvalid : r.hasValidFields <;> simp [validIds, givenIds, hr, hvalid]

theorem validIds_cons_of_named {r : Rule} (hvalid : r.hasValidFields = true)
    (hr : r.hasBlankId = false) (rules : List Rule) :
    validIds (r :: rules) = r.id :: validIds rules := by
  simp [validIds, givenIds, hr, hvalid]

theorem validIds_subset_givenIds (rules : List Rule) : validIds rules ⊆ givenIds rules := by
  intro id hid
  simp only [validIds, givenIds, List.mem_map, List.mem_filter] at hid ⊢
  obtain ⟨r, ⟨⟨hr, -⟩, hnamed⟩, rfl⟩ := hid
  exact ⟨r, ⟨hr, hnamed⟩, rfl⟩

theorem compileFrom_cons_of_invalid {r : Rule} (hr : r.hasValidFields = false)
    (rules : List Rule) :
    (compileFrom defaults taken ids (r :: rules)).1.ids =
      (compileFrom defaults taken ids rules).1.ids := by
  rw [Rule.hasValidFields] at hr
  rw [compileFrom]
  split at hr
  · cases hr
  · rename_i hcheck
    rw [hcheck]
    rfl

/-- A valid rule gets an identifier, which is in use from then on. -/
theorem compileFrom_cons_of_valid (defaults : RuleDefaults) (taken : List String)
    (ids : IdSource) {r : Rule} (hr : r.hasValidFields = true) (rules : List Rule) :
    ∃ id ids', (if r.hasBlankId then id ∉ taken else id = r.id) ∧
      (compileFrom defaults taken ids (r :: rules)).1.ids =
        id :: (compileFrom defaults (id :: taken) ids' rules).1.ids := by
  rw [Rule.hasValidFields] at hr
  split at hr
  · rename_i u hcheck
    refine ⟨(r.compile defaults taken ids).1.id, (r.compile defaults taken ids).2, ?_, ?_⟩
    · rw [Rule.id_compile]
      split
      · exact ids.drawUnused_not_mem taken
      · rfl
    · rw [compileFrom, hcheck]
      rfl
  · cases hr

/-- Every identifier that a valid rule gives itself is kept. -/
theorem validIds_subset_ids (rules : List Rule) :
    validIds rules ⊆ (compileFrom defaults taken ids rules).1.ids := by
  induction rules generalizing taken ids with
  | nil => exact List.nil_subset _
  | cons r rest ih =>
    cases hvalid : r.hasValidFields with
    | false =>
      rw [validIds_cons_of_invalid hvalid, compileFrom_cons_of_invalid hvalid]
      exact ih
    | true =>
      obtain ⟨id, ids', hid, heq⟩ := compileFrom_cons_of_valid defaults taken ids hvalid rest
      rw [heq]
      cases hblank : r.hasBlankId with
      | true =>
        rw [validIds_cons_of_blank hblank]
        exact List.subset_cons_of_subset _ ih
      | false =>
        rw [hblank, if_neg (by simp)] at hid
        rw [validIds_cons_of_named hvalid hblank, hid]
        exact List.cons_subset_cons _ ih

/-- Every other identifier is new. -/
theorem mem_validIds_or_not_mem_taken (rules : List Rule) :
    ∀ id ∈ (compileFrom defaults taken ids rules).1.ids, id ∈ validIds rules ∨ id ∉ taken := by
  induction rules generalizing taken ids with
  | nil => simp [compileFrom, Batch.ids]
  | cons r rest ih =>
    intro id' hmem
    cases hvalid : r.hasValidFields with
    | false =>
      rw [compileFrom_cons_of_invalid hvalid] at hmem
      rw [validIds_cons_of_invalid hvalid]
      exact ih id' hmem
    | true =>
      obtain ⟨id, ids', hid, heq⟩ := compileFrom_cons_of_valid defaults taken ids hvalid rest
      rw [heq, List.mem_cons] at hmem
      have hlater : ∀ given : List String,
          id' ∈ (compileFrom defaults (id :: taken) ids' rest).1.ids →
          (∀ a ∈ validIds rest, a ∈ given) → id' ∈ given ∨ id' ∉ taken :=
        fun given hmem hgiven =>
          (ih id' hmem).imp (hgiven id') fun hnew htaken => hnew (List.mem_cons_of_mem _ htaken)
      cases hblank : r.hasBlankId with
      | true =>
        rw [hblank, if_pos rfl] at hid
        rw [validIds_cons_of_blank hblank]
        rcases hmem with rfl | hmem
        · exact Or.inr hid
        · exact hlater _ hmem fun a ha => ha
      | false =>
        rw [hblank, if_neg (by simp)] at hid
        rw [validIds_cons_of_named hvalid hblank]
        rcases hmem with rfl | hmem
        · exact Or.inl (hid ▸ List.mem_cons_self)
        · exact hlater _ hmem fun a ha => List.mem_cons_of_mem _ ha

theorem nodup_ids_compileFrom_iff (rules : List Rule) (htaken : validIds rules ⊆ taken) :
    (compileFrom defaults taken ids rules).1.ids.Nodup ↔ (validIds rules).Nodup := by
  induction rules generalizing taken ids with
  | nil => simp [compileFrom, Batch.ids, validIds, givenIds]
  | cons r rest ih =>
    cases hvalid : r.hasValidFields with
    | false =>
      rw [validIds_cons_of_invalid hvalid] at htaken ⊢
      rw [compileFrom_cons_of_invalid hvalid]
      exact ih htaken
    | true =>
      obtain ⟨id, ids', hid, heq⟩ := compileFrom_cons_of_valid defaults taken ids hvalid rest
      -- an identifier comes again exactly if a later rule gives it, as the later new ones differ
      have hagain : id ∈ (compileFrom defaults (id :: taken) ids' rest).1.ids ↔
          id ∈ validIds rest := by
        refine ⟨fun hmem => ?_, fun hmem => validIds_subset_ids rest hmem⟩
        exact (mem_validIds_or_not_mem_taken rest id hmem).resolve_right
          fun hnew => hnew List.mem_cons_self
      rw [heq, List.nodup_cons, hagain]
      cases hblank : r.hasBlankId with
      | true =>
        rw [hblank, if_pos rfl] at hid
        rw [validIds_cons_of_blank hblank] at htaken ⊢
        rw [ih (List.subset_cons_of_subset _ htaken)]
        exact and_iff_right fun hmem => hid (htaken hmem)
      | false =>
        rw [hblank, if_neg (by simp)] at hid
        rw [validIds_cons_of_named hvalid hblank] at htaken ⊢
        have hrest : validIds rest ⊆ taken := (List.cons_subset.mp htaken).2
        rw [ih (List.subset_cons_of_subset _ hrest), List.nodup_cons, hid]

/-- No two valid rules of the list give themselves the same identifier. -/
def DistinctIds (rules : List Rule) : Prop := (validIds rules).Nodup

instance (rules : List Rule) : Decidable (DistinctIds rules) :=
  inferInstanceAs (Decidable (validIds rules).Nodup)

/-- **The identifiers of a compiled batch** are distinct exactly if no two of its valid rules give
themselves the same one. -/
theorem nodup_ids_compileBatch_iff (rules : List Rule) :
    (compileBatch defaults ids rules).1.ids.Nodup ↔ DistinctIds rules :=
  nodup_ids_compileFrom_iff rules (validIds_subset_givenIds rules)

end BannerMatch
