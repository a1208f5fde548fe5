import BannerMatch.Proofs.Ranking

/-!
# Exchanging neighbours

Two neighbours of different confidence can change places without any effect on a ranking, and those
of equal confidence cannot. So ranking gives a normal form: two lists are ranked alike exactly if
one comes from the other by such exchanges (`rank_eq_rank_iff`).

A ranking is its own ranking, and the services of at least some confidence are a front part of it,
which is the ranking of those services: `rank_atLeast_and_exchanges`.
-/

namespace BannerMatch

/-- Two neighbours of different confidence change places. -/
inductive Exchange : List Service → List Service → Prop
  | swap (front back : List Service) {s t : Service} (h : s.confidence ≠ t.confidence) :
      Exchange (front ++ s :: t :: back) (front ++ t :: s :: back)

/-- Neighbours of different confidence change places, any number of times. -/
abbrev Exchanges : List Service → List Service → Prop := Relation.ReflTransGen Exchange

variable {services others : List Service}

/-! ### Rankings of rankings -/

/-- **A ranked list stays as it is.** -/
theorem Ranked.rank_eq (h : Ranked services) : rank services = services :=
  (ranked_rank services).eq_of_atConfidence h fun k => atConfidence_rank k services

/-- The services of at least some confidence are all there, as often as they were. -/
theorem count_atLeast (confidence : UInt8) (services : List Service) (s : Service) :
    (atLeast confidence services).count s =
      if confidence ≤ s.confidence then services.count s else 0 := by
  unfold atLeast
  split
  · rename_i h
    exact List.count_filter (by simpa using h)
  · rename_i h
    exact List.count_eq_zero.mpr fun hmem => h (of_decide_eq_true (List.mem_filter.mp hmem).2)

/-- The services of at least some confidence come first. -/
theorem Ranked.atLeast_isPrefix (h : Ranked services) (confidence : UInt8) :
    atLeast confidence services <+: services :=
  ⟨below confidence services, (h.eq_atLeast_append_below confidence).symm⟩

/-! ### One exchange -/

/-- **An exchange keeps the order of the services of each confidence**: of two services that change
places, one of them at most is of that confidence. -/
theorem Exchange.atConfidence_eq (h : Exchange services others) (confidence : UInt8) :
    atConfidence confidence services = atConfidence confidence others := by
  cases h with
  | @swap front back s t hne =>
    simp only [atConfidence_append, atConfidence_cons]
    by_cases hs : s.confidence = confidence
    · have ht : t.confidence ≠ confidence := fun ht => hne (hs.trans ht.symm)
      simp [hs, ht]
    · simp [hs]

theorem Exchange.symm (h : Exchange services others) : Exchange others services := by
  cases h with
  | swap front back hne => exact .swap front back hne.symm

theorem Exchange.append_right (h : Exchange services others) (rest : List Service) :
    Exchange (services ++ rest) (others ++ rest) := by
  cases h with
  | swap front back hne =>
    simp only [List.append_assoc, List.cons_append]
    exact .swap front (back ++ rest) hne

theorem Exchange.append_left (h : Exchange services others) (start : List Service) :
    Exchange (start ++ services) (start ++ others) := by
  cases h with
  | swap front back hne =>
    simp only [← List.append_assoc]
    exact .swap (start ++ front) back hne

/-! ### Any number of exchanges -/

theorem Exchanges.atConfidence_eq (h : Exchanges services others) (confidence : UInt8) :
    atConfidence confidence services = atConfidence confidence others := by
  induction h with
  | refl => rfl
  | tail _ hlast ih => exact ih.trans (hlast.atConfidence_eq confidence)

theorem Exchanges.symm (h : Exchanges services others) : Exchanges others services := by
  induction h with
  | refl => exact .refl
  | tail _ hlast ih => exact ih.head hlast.symm

theorem Exchanges.append_right (h : Exchanges services others) (rest : List Service) :
    Exchanges (services ++ rest) (others ++ rest) :=
  h.lift (· ++ rest) fun _ _ hstep => hstep.append_right rest

theorem Exchanges.append_left (h : Exchanges services others) (start : List Service) :
    Exchanges (start ++ services) (start ++ others) :=
  h.lift (start ++ ·) fun _ _ hstep => hstep.append_left start

/-- A service goes to the front, past services of other confidences. -/
theorem exchanges_to_front {s : Service} (h : ∀ t ∈ services, t.confidence ≠ s.confidence) :
    Exchanges (services ++ [s]) (s :: services) := by
  induction services with
  | nil => exact .refl
  | cons t rest ih =>
    obtain ⟨ht, hrest⟩ := List.forall_mem_cons.mp h
    have hback : Exchanges (t :: rest ++ [s]) (t :: s :: rest) :=
      Exchanges.append_left (ih hrest) [t]
    exact hback.tail (.swap [] rest ht)

/-- **Every list can be ranked by exchanges**, service by service from the front: the next one goes
past those of less confidence. -/
theorem exchanges_rank (services : List Service) : Exchanges services (rank services) := by
  induction services using List.reverseRecOn with
  | nil => rw [Ranked.rank_eq .nil]
  | append_singleton services s ih =>
    have hranked := (ranked_rank services).eq_atLeast_append_below s.confidence
    have hfront : Exchanges (services ++ [s])
        (atLeast s.confidence (rank services) ++ (below s.confidence (rank services) ++ [s])) := by
      rw [← List.append_assoc, ← hranked]
      exact ih.append_right [s]
    have hpast : Exchanges (below s.confidence (rank services) ++ [s])
        (s :: below s.confidence (rank services)) := by
      apply exchanges_to_front
      intro t ht
      have hless : t.confidence < s.confidence := of_decide_eq_true (List.mem_filter.mp ht).2
      exact UInt8.ne_of_lt hless
    rw [rank_append_singleton]
    exact hfront.trans (hpast.append_left _)

/-- **Ranking gives a normal form** under exchanges. -/
theorem rank_eq_rank_iff : rank services = rank others ↔ Exchanges services others := by
  constructor
  · intro h
    have hback := exchanges_rank others
    rw [← h] at hback
    exact (exchanges_rank services).trans hback.symm
  · intro h
    refine (ranked_rank services).eq_of_atConfidence (ranked_rank others) fun k => ?_
    rw [atConfidence_rank, atConfidence_rank]
    exact h.atConfidence_eq k

/-! ### Thresholds -/

/-- **Ranking and a threshold**: it is the same to leave out the services below a threshold before
or after ranking. What is left is a front part of the ranking, with every service of at least that
confidence as often as it was given. Ranking changes nothing the second time, and two lists are
ranked alike exactly if one comes from the other by exchanging neighbours of different
confidence. -/
theorem rank_atLeast_and_exchanges (services : List Service) (confidence : UInt8) :
    atLeast confidence (rank services) = rank (atLeast confidence services) ∧
    (atLeast confidence (rank services) <+: rank services ∧
      ∀ s, (atLeast confidence (rank services)).count s =
        if confidence ≤ s.confidence then services.count s else 0) ∧
    rank (rank services) = rank services ∧
    ∀ others, rank services = rank others ↔ Exchanges services others := by
  have hranked := ranked_rank services
  refine ⟨?_, ⟨hranked.atLeast_isPrefix confidence, fun s => ?_⟩, hranked.rank_eq, fun others => ?_⟩
  · exact (rank_filter _ services).symm
  · rw [count_atLeast, (rank_perm services).count_eq]
  · exact rank_eq_rank_iff

/-- Services of one confidence keep their order. -/
example :
    (rank ([("a", 50), ("b", 90), ("c", 50), ("d", 90)].map fun s =>
      { name := "ssh", product := "ssh", confidence := s.2, ruleId := s.1, matchedText := "" })).map
      Service.ruleId = ["b", "d", "a", "c"] := by cbv

end BannerMatch
