import BannerMatch.Proofs.Rule.Batches

/-!
# Identifiers that are assigned

A source of identifiers only counts up, so what is drawn on the way from one state of it to another
has numbers of that interval (`IdSource.Draws`). Ways one after the other have disjoint intervals:
`IdSource.Draws.append`.

`AssignsFresh` says how a list of rules gets its identifiers; it holds of one rule
(`assignsFresh_compile`) and, rule by rule, of a batch (`assignsFresh_compileFrom`).
-/

namespace BannerMatch

/-! ### Sources -/

/-- On the way from `s` to `t` some identifiers are drawn, each of them once. -/
structure IdSource.Draws (s t : IdSource) (drawn : List String) : Prop where
  stem : t.stem = s.stem
  le : s.next ≤ t.next
  nodup : drawn.Nodup
  between : ∀ id ∈ drawn, ∃ n, s.next ≤ n ∧ n < t.next ∧ id = s.name n

namespace IdSource

theorem Draws.refl (s : IdSource) : s.Draws s [] where
  stem := rfl
  le := le_rfl
  nodup := List.nodup_nil
  between _ hid := absurd hid List.not_mem_nil

theorem name_eq_of_stem {s t : IdSource} (h : t.stem = s.stem) (n : ℕ) : t.name n = s.name n := by
  rw [name, name, h]

/-- **What is drawn later is new**: its numbers come after all earlier ones. -/
theorem Draws.append {s t u : IdSource} {first later : List String} (h : s.Draws t first)
    (h' : t.Draws u later) : s.Draws u (first ++ later) where
  stem := h'.stem.trans h.stem
  le := h.le.trans h'.le
  nodup := by
    refine List.nodup_append.mpr ⟨h.nodup, h'.nodup, ?_⟩
    intro id hid id' hid' heq
    obtain ⟨m, -, hm, rfl⟩ := h.between id hid
    obtain ⟨n, hn, -, rfl⟩ := h'.between id' hid'
    rw [name_eq_of_stem h.stem] at heq
    have hmn := s.name_injective heq
    omega
  between id hid := by
    rcases List.mem_append.mp hid with hid | hid
    · obtain ⟨n, hs, ht, rfl⟩ := h.between id hid
      exact ⟨n, hs, ht.trans_le h'.le, rfl⟩
    · obtain ⟨n, ht, hu, rfl⟩ := h'.between id hid
      exact ⟨n, h.le.trans ht, hu, name_eq_of_stem h.stem n⟩

theorem draws_drawUnused (s : IdSource) (taken : List String) :
    s.Draws (s.drawUnused taken).2 [(s.drawUnused taken).1] := by
  obtain ⟨k, hdrawn, -⟩ := s.exists_drawUnused_eq taken
  rw [hdrawn]
  refine ⟨rfl, ?_, List.nodup_singleton _, fun id hid => ⟨s.next + k, by omega, ?_, ?_⟩⟩
  · show s.next ≤ s.next + k + 1
    omega
  · exact Nat.lt_succ_self _
  · exact List.mem_singleton.mp hid

end IdSource

/-! ### Rules as they come and as they are kept -/

/-- The identifiers of rules that came without one. -/
def assignedIds (pairs : List (Rule × CompiledRule)) : List String :=
  (pairs.filter fun p => p.1.hasBlankId).map fun p => p.2.id

/-- Rules get their identifiers: they keep what they have, and what is assigned is not in use and
is drawn from the source. -/
structure AssignsFresh (taken : List String) (ids ids' : IdSource)
    (pairs : List (Rule × CompiledRule)) : Prop where
  kept : ∀ p ∈ pairs, p.1.hasBlankId = false → p.2.id = p.1.id
  unused : ∀ id ∈ assignedIds pairs, id ∉ taken
  draws : ids.Draws ids' (assignedIds pairs)

namespace AssignsFresh

variable {taken : List String} {ids ids' ids'' : IdSource} {pairs : List (Rule × CompiledRule)}

theorem nil (taken : List String) (ids : IdSource) : AssignsFresh taken ids ids [] where
  kept _ hp := absurd hp List.not_mem_nil
  unused _ hid := absurd hid List.not_mem_nil
  draws := .refl ids

/-- After one rule its identifier is in use, too. -/
theorem cons {r : Rule} {c : CompiledRule} (h : AssignsFresh taken ids ids' [(r, c)])
    (hpairs : AssignsFresh (c.id :: taken) ids' ids'' pairs) :
    AssignsFresh taken ids ids'' ((r, c) :: pairs) := by
  have happend : assignedIds ((r, c) :: pairs) = assignedIds [(r, c)] ++ assignedIds pairs := by
    rw [assignedIds, ← List.singleton_append, List.filter_append, List.map_append]
    rfl
  constructor
  · intro p hp hnamed
    rcases List.mem_cons.mp hp with rfl | hp
    · exact h.kept _ List.mem_cons_self hnamed
    · exact hpairs.kept p hp hnamed
  · intro id hid
    rw [happend] at hid
    rcases List.mem_append.mp hid with hid | hid
    · exact h.unused id hid
    · exact fun htaken => hpairs.unused id hid (List.mem_cons_of_mem _ htaken)
  · rw [happend]
    exact h.draws.append hpairs.draws

/-- **An identifier that is assigned is that of one rule only**, among these rules and others whose
identifiers were in use. -/
theorem count_eq_one (h : AssignsFresh taken ids ids' pairs) {others : List String}
    (hothers : others ⊆ taken) {id : String} (hid : id ∈ assignedIds pairs)
    (hgiven : id ∉ givenIds (pairs.map Prod.fst)) :
    (others ++ pairs.map fun p => p.2.id).count id = 1 := by
  have hfree : others.count id = 0 :=
    List.count_eq_zero.mpr fun hmem => h.unused id hid (hothers hmem)
  -- the pairs are those of rules without an identifier and those of the others
  have hsplit : (assignedIds pairs ++
      (pairs.filter fun p => !p.1.hasBlankId).map fun p => p.2.id).Perm
      (pairs.map fun p => p.2.id) := by
    rw [assignedIds, ← List.map_append]
    exact (List.filter_append_perm _ pairs).map _
  have hnamed : ((pairs.filter fun p => !p.1.hasBlankId).map fun p => p.2.id) =
      givenIds (pairs.map Prod.fst) := by
    rw [givenIds, List.filter_map, List.map_map]
    refine List.map_congr_left fun p hp => ?_
    obtain ⟨hp, hblank⟩ := List.mem_filter.mp hp
    exact h.kept p hp (by simpa using hblank)
  rw [List.count_append, hfree, ← hsplit.count_eq, List.count_append, hnamed,
    List.count_eq_zero.mpr hgiven, List.count_eq_one_of_mem h.draws.nodup hid]

end AssignsFresh

/-! ### One rule -/

variable {defaults : RuleDefaults}

theorem assignsFresh_compile (r : Rule) (taken : List String) (ids : IdSource) :
    AssignsFresh taken ids (r.compile defaults taken ids).2
      [(r, (r.compile defaults taken ids).1)] := by
  have hid : (r.compile defaults taken ids).1.id =
      if r.hasBlankId then (ids.drawUnused taken).1 else r.id := r.id_compile
  cases hblank : r.hasBlankId with
  | true =>
    rw [hblank, if_pos rfl] at hid
    have hassigned : assignedIds [(r, (r.compile defaults taken ids).1)] =
        [(ids.drawUnused taken).1] := by
      simp [assignedIds, hblank, hid]
    have hsource : (r.compile defaults taken ids).2 = (ids.drawUnused taken).2 := by
      simp [Rule.compile, Rule.complete, hblank]
    refine ⟨fun p hp hnamed => ?_, fun id hmem => ?_, ?_⟩
    · rw [List.mem_singleton.mp hp, hblank] at hnamed
      cases hnamed
    · rw [hassigned] at hmem
      rw [List.mem_singleton.mp hmem]
      exact ids.drawUnused_not_mem taken
    · rw [hassigned, hsource]
      exact ids.draws_drawUnused taken
  | false =>
    rw [hblank, if_neg Bool.false_ne_true] at hid
    have hassigned : assignedIds [(r, (r.compile defaults taken ids).1)] = [] := by
      simp [assignedIds, hblank]
    have hsource : (r.compile defaults taken ids).2 = ids := by
      simp [Rule.compile, Rule.complete, hblank]
    refine ⟨fun p hp _ => ?_, fun id hmem => ?_, ?_⟩
    · rw [List.mem_singleton.mp hp]
      exact hid
    · rw [hassigned] at hmem
      exact absurd hmem List.not_mem_nil
    · rw [hassigned, hsource]
      exact .refl ids

/-! ### Batches -/

/-- The valid rules of a list, each with what it was compiled to. -/
def compiledPairs (rules : List Rule) (compiled : List CompiledRule) : List (Rule × CompiledRule) :=
  (rules.filter Rule.hasValidFields).zip compiled

variable {taken : List String} {ids : IdSource}

theorem length_compileFrom (rules : List Rule) :
    (compileFrom defaults taken ids rules).1.rules.length =
      (rules.filter Rule.hasValidFields).length :=
  loaded_compileFrom rules

/-- **Rule by rule**, in the order of the batch. -/
theorem assignsFresh_compileFrom (rules : List Rule) (taken : List String) (ids : IdSource) :
    AssignsFresh taken ids (compileFrom defaults taken ids rules).2
      (compiledPairs rules (compileFrom defaults taken ids rules).1.rules) := by
  induction rules generalizing taken ids with
  | nil => exact .nil taken ids
  | cons r rest ih =>
    rw [compileFrom, compiledPairs]
    cases hr : r.checkFields with
    | error f =>
      rw [List.filter_cons_of_neg (by simp [Rule.hasValidFields, hr])]
      exact ih taken ids
    | ok u =>
      rw [List.filter_cons_of_pos (by simp [Rule.hasValidFields, hr])]
      exact (assignsFresh_compile r taken ids).cons (ih _ _)

end BannerMatch
