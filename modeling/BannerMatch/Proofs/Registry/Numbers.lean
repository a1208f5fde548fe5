import BannerMatch.Registry.Basic
import Mathlib.Data.String.Basic
import Mathlib.Tactic

/-!
# Numbers of rules

A tally of texts lists exactly the texts that occur, in order, each with the number of its
occurrences (`counts_of`). So the numbers of a registry are those of its rules, in all and by
service and by author: `counted`.
-/

namespace BannerMatch

namespace Tally

/-- The texts stand in order, each of them once. -/
def Ordered (t : Tally) : Prop := t.Pairwise fun p q => p.1 < q.1

/-- The tally lists exactly the texts that occur among the keys, each with the number of its
occurrences. -/
structure Counts (t : Tally) (keys : List String) : Prop where
  ordered : t.Ordered
  mem_iff : ∀ key n, (key, n) ∈ t ↔ 0 < n ∧ n = keys.count key

/-! ### One text more -/

/-- Other texts are counted as before. -/
theorem mem_add_of_ne {key k : String} (hne : k ≠ key) (t : Tally) (n : ℕ) :
    (k, n) ∈ t.add key ↔ (k, n) ∈ t := by
  induction t with
  | nil => simp [add, hne]
  | cons p rest ih =>
    obtain ⟨k', m⟩ := p
    rw [add]
    split
    · rename_i hkey
      subst hkey
      simp [hne]
    split
    · simp [hne]
    · rw [List.mem_cons, ih, List.mem_cons]

/-- The texts of a tally with one text more. -/
theorem fst_of_mem_add {key : String} {t : Tally} {p : String × ℕ} (hp : p ∈ t.add key) :
    p.1 = key ∨ ∃ q ∈ t, q.1 = p.1 := by
  by_cases hne : p.1 = key
  · exact .inl hne
  · exact .inr ⟨p, (mem_add_of_ne hne t p.2).mp hp, rfl⟩

theorem Ordered.add {t : Tally} (ht : t.Ordered) (key : String) : (t.add key).Ordered := by
  induction t with
  | nil => exact List.pairwise_singleton _ _
  | cons p rest ih =>
    obtain ⟨hfirst, hrest⟩ := List.pairwise_cons.mp ht
    rw [Tally.add]
    split
    · exact List.pairwise_cons.mpr ⟨hfirst, hrest⟩
    split
    · rename_i hlt
      refine List.pairwise_cons.mpr ⟨fun q hq => ?_, ht⟩
      rcases List.mem_cons.mp hq with rfl | hq
      · exact hlt
      · exact hlt.trans (hfirst q hq)
    · rename_i hne hnlt
      refine List.pairwise_cons.mpr ⟨fun q hq => ?_, ih hrest⟩
      rcases fst_of_mem_add hq with hq | ⟨q', hq', hq⟩
      · rw [hq]
        exact lt_of_le_of_ne (not_lt.mp hnlt) (Ne.symm hne)
      · rw [← hq]
        exact hfirst q' hq'

/-- The text itself is counted once more, or for the first time. -/
theorem mem_add_self {t : Tally} (ht : t.Ordered) (key : String) (n : ℕ) :
    (key, n) ∈ t.add key ↔
      (∃ m, (key, m) ∈ t ∧ n = m + 1) ∨ n = 1 ∧ ∀ m, (key, m) ∉ t := by
  induction t with
  | nil => simp [add]
  | cons p rest ih =>
    obtain ⟨k, m⟩ := p
    obtain ⟨hfirst, hrest⟩ := List.pairwise_cons.mp ht
    rw [add]
    split
    · rename_i hkey
      subst hkey
      have hlater : ∀ l, (key, l) ∉ rest := fun l hl => lt_irrefl _ (hfirst (key, l) hl)
      simp [hlater]
    split
    · rename_i hne hlt
      have hlater : ∀ l, (key, l) ∉ rest := fun l hl => lt_asymm hlt (hfirst (key, l) hl)
      simp [hlater, hne]
    · rename_i hne _
      simp [ih hrest, hne]

/-- **One text more** is counted with the others. -/
theorem Counts.add {t : Tally} {keys : List String} (h : t.Counts keys) (key : String) :
    (t.add key).Counts (keys ++ [key]) where
  ordered := h.ordered.add key
  mem_iff k n := by
    by_cases hk : k = key
    · subst hk
      rw [mem_add_self h.ordered, List.count_append, List.count_singleton_self]
      simp only [h.mem_iff]
      constructor
      · rintro (⟨m, ⟨-, rfl⟩, rfl⟩ | ⟨rfl, hnone⟩)
        · exact ⟨Nat.succ_pos _, rfl⟩
        · have hzero : keys.count k = 0 := by
            by_contra hne
            exact hnone _ ⟨Nat.pos_of_ne_zero hne, rfl⟩
          rw [hzero]
          exact ⟨Nat.one_pos, rfl⟩
      · rintro ⟨-, rfl⟩
        rcases Nat.eq_zero_or_pos (keys.count k) with hzero | hpos
        · exact .inr ⟨by rw [hzero], fun m hm => by omega⟩
        · exact .inl ⟨_, ⟨hpos, rfl⟩, rfl⟩
    · rw [mem_add_of_ne hk, h.mem_iff, List.count_append,
        List.count_eq_zero.mpr (List.mem_singleton.not.mpr hk), Nat.add_zero]

theorem total_add (t : Tally) (key : String) : (t.add key).total = t.total + 1 := by
  have hcons : ∀ (p : String × ℕ) (rest : Tally), total (p :: rest) = p.2 + rest.total :=
    fun _ _ => rfl
  induction t with
  | nil => rfl
  | cons p rest ih =>
    rw [add]
    split
    · simp only [hcons]
      omega
    split
    · simp only [hcons]
      omega
    · simp only [hcons, ih]
      omega

/-! ### All texts -/

theorem of_append_singleton (keys : List String) (key : String) :
    of (keys ++ [key]) = (of keys).add key := by
  rw [of, List.foldl_append]
  rfl

/-- **A tally of texts counts them.** -/
theorem counts_of (keys : List String) : (of keys).Counts keys := by
  induction keys using List.reverseRecOn with
  | nil => exact ⟨List.Pairwise.nil, fun key n => by simp [of]; omega⟩
  | append_singleton keys key ih =>
    rw [of_append_singleton]
    exact ih.add key

theorem total_of (keys : List String) : (of keys).total = keys.length := by
  induction keys using List.reverseRecOn with
  | nil => rfl
  | append_singleton keys key ih =>
    rw [of_append_singleton, total_add, ih, List.length_append, List.length_singleton]

theorem Counts.count_eq {t : Tally} {keys : List String} (h : t.Counts keys) (key : String) :
    t.count key = keys.count key := by
  rw [count]
  cases hlookup : t.lookup key with
  | some n =>
    obtain ⟨before, after, rfl, -⟩ := List.lookup_eq_some_iff.mp hlookup
    exact ((h.mem_iff key n).mp (by simp)).2
  | none =>
    by_contra hne
    have hmem := (h.mem_iff key _).mpr ⟨Nat.pos_of_ne_zero (Ne.symm hne), rfl⟩
    simpa using List.lookup_eq_none_iff.mp hlookup _ hmem

end Tally

/-! ### Rules -/

/-- A rule without an author counts for `unknown`. -/
theorem count_map_countedAuthor (rules : List Rule) {author : String} (hauthor : author ≠ "") :
    (rules.map Rule.countedAuthor).count author =
      (rules.map Rule.author).count author +
        if author = "unknown" then (rules.map Rule.author).count "" else 0 := by
  induction rules with
  | nil => simp
  | cons r rest ih =>
    rw [List.map_cons, List.count_cons, ih, List.map_cons, List.count_cons, List.count_cons,
      Rule.countedAuthor]
    by_cases hr : r.author = ""
    · by_cases hunknown : author = "unknown"
      · simp [hr, hunknown]
        omega
      · simp [hr, hunknown, Ne.symm hunknown, Ne.symm hauthor]
    · by_cases hunknown : author = "unknown"
      · simp [hr, hunknown]
        omega
      · simp [hr, hunknown]

theorem countedAuthor_ne (r : Rule) : r.countedAuthor ≠ "" := by
  rw [Rule.countedAuthor]
  split
  · decide
  · rename_i hr
    simpa using hr

namespace Registry

/-- The numbers of a registry are those of its rules. -/
structure Counted (r : Registry) : Prop where
  total : r.stats.total = r.ruleList.length
  active_add_inert : r.stats.active + r.stats.inert = r.stats.total
  inert : r.stats.inert = r.inertRules.length
  services : r.stats.byService.Counts (r.ruleList.map Rule.service)
  sumOfServices : r.stats.byService.total = r.stats.total
  authors : r.stats.byAuthor.Counts (r.ruleList.map Rule.countedAuthor)
  sumOfAuthors : r.stats.byAuthor.total = r.stats.total
  /-- Rules without an author are counted together, under a name of their own. -/
  named : ∀ author, r.stats.byAuthor.count author =
    if author = "" then 0
    else (r.ruleList.map Rule.author).count author +
      if author = "unknown" then (r.ruleList.map Rule.author).count "" else 0

/-- The inert rules are those that are not active. -/
theorem length_inertRules (r : Registry) :
    r.inertRules.length = (r.rules.filter fun c => !c.isActive).length := by
  rw [inertRules, List.length_filterMap_eq_countP, List.countP_eq_length_filter]
  refine congrArg List.length (List.filter_congr fun c _ => ?_)
  rw [CompiledRule.fault?, CompiledRule.isActive]
  cases c.pattern <;> rfl

/-- **The numbers of a registry are right**, whatever rules it has. -/
theorem counted (r : Registry) : r.Counted where
  total := (List.length_map _).symm
  active_add_inert := (List.length_eq_length_filter_add _).symm
  inert := r.length_inertRules.symm
  services := Tally.counts_of _
  sumOfServices := by
    show (Tally.of _).total = r.rules.length
    rw [Tally.total_of, List.length_map, ruleList, List.length_map]
  authors := Tally.counts_of _
  sumOfAuthors := by
    show (Tally.of _).total = r.rules.length
    rw [Tally.total_of, List.length_map, ruleList, List.length_map]
  named author := by
    show (Tally.of _).count author = _
    rw [(Tally.counts_of _).count_eq]
    split
    · rename_i hempty
      rw [hempty, List.count_eq_zero, List.mem_map]
      rintro ⟨rule, -, hrule⟩
      exact countedAuthor_ne rule hrule
    · rename_i hauthor
      exact count_map_countedAuthor _ hauthor

end Registry
end BannerMatch
