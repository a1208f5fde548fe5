import BannerMatch.Ranking
import Mathlib.Tactic

/-!
# Ranked services

A ranked list falls in confidence and keeps the services of each confidence in their order
(`ranked_rank`, `atConfidence_rank`), and these two facts determine it
(`Ranked.eq_of_atConfidence`). So ranking commutes with leaving services out (`rank_filter`), and a
service that comes last is ranked behind those of its own confidence and before those of less
(`rank_append_singleton`).
-/

namespace BannerMatch

/-- The confidence falls, or stays, from service to service. -/
def Ranked (services : List Service) : Prop :=
  services.Pairwise fun a b => b.confidence ≤ a.confidence

/-- The services of one confidence. -/
def atConfidence (confidence : UInt8) (services : List Service) : List Service :=
  services.filter fun s => s.confidence == confidence

/-- The services of less than the given confidence. -/
def below (confidence : UInt8) (services : List Service) : List Service :=
  services.filter fun s => s.confidence < confidence

variable {services : List Service}

/-! ### What is known about a ranking -/

theorem ranksBefore_trans (a b c : Service) (hab : a.ranksBefore b = true)
    (hbc : b.ranksBefore c = true) : a.ranksBefore c = true := by
  rw [Service.ranksBefore, decide_eq_true_eq] at *
  exact UInt8.le_trans hbc hab

theorem ranksBefore_total (a b : Service) : (a.ranksBefore b || b.ranksBefore a) = true := by
  simp only [Service.ranksBefore, Bool.or_eq_true, decide_eq_true_eq]
  exact UInt8.le_total _ _

theorem rank_perm (services : List Service) : (rank services).Perm services :=
  List.mergeSort_perm services Service.ranksBefore

theorem ranked_rank (services : List Service) : Ranked (rank services) := by
  have h := List.pairwise_mergeSort ranksBefore_trans ranksBefore_total services
  exact h.imp fun hab => of_decide_eq_true hab

/-- **Services of one confidence keep their order.** -/
theorem atConfidence_rank (confidence : UInt8) (services : List Service) :
    atConfidence confidence (rank services) = atConfidence confidence services := by
  have hequal : (atConfidence confidence services).Pairwise
      fun a b => a.ranksBefore b = true := by
    refine List.pairwise_of_forall_mem_list fun a ha b hb => ?_
    have ha := (List.mem_filter.mp ha).2
    have hb := (List.mem_filter.mp hb).2
    rw [beq_iff_eq] at ha hb
    simp [Service.ranksBefore, ha, hb]
  have hsublist : (atConfidence confidence services).Sublist (rank services) :=
    List.sublist_mergeSort ranksBefore_trans ranksBefore_total hequal List.filter_sublist
  have hsame : (atConfidence confidence services).Sublist
      (atConfidence confidence (rank services)) := by
    have h := hsublist.filter fun s => s.confidence == confidence
    simpa only [atConfidence, List.filter_filter, Bool.and_self] using h
  have hlength := ((rank_perm services).filter fun s => s.confidence == confidence).length_eq
  exact (hsame.eq_of_length hlength.symm).symm

/-! ### What determines a ranked list -/

theorem atConfidence_cons (confidence : UInt8) (s : Service) (services : List Service) :
    atConfidence confidence (s :: services) =
      if s.confidence = confidence then s :: atConfidence confidence services
      else atConfidence confidence services := by
  simp only [atConfidence, List.filter_cons, beq_iff_eq]

variable {others : List Service}

theorem mem_iff_of_atConfidence
    (hsame : ∀ confidence, atConfidence confidence services = atConfidence confidence others)
    (s : Service) : s ∈ services ↔ s ∈ others := by
  have hmem : ∀ l : List Service, s ∈ l ↔ s ∈ atConfidence s.confidence l := by
    simp [atConfidence]
  rw [hmem, hsame, ← hmem]

/-- The first service has the highest confidence. -/
theorem Ranked.le_head {s t : Service} (h : Ranked (s :: services)) (ht : t ∈ s :: services) :
    t.confidence ≤ s.confidence := by
  rcases List.mem_cons.mp ht with rfl | ht
  · exact UInt8.le_refl _
  · exact List.rel_of_pairwise_cons h ht

/-- **A ranked list is determined by its services of each confidence.** -/
theorem Ranked.eq_of_atConfidence (h : Ranked services) (hothers : Ranked others)
    (hsame : ∀ confidence, atConfidence confidence services = atConfidence confidence others) :
    services = others := by
  induction services generalizing others with
  | nil =>
    refine (List.eq_nil_iff_forall_not_mem.mpr fun s hs => ?_).symm
    exact absurd ((mem_iff_of_atConfidence hsame s).mpr hs) List.not_mem_nil
  | cons s services ih =>
    have hmem := mem_iff_of_atConfidence hsame
    obtain ⟨t, others, rfl⟩ := List.exists_cons_of_ne_nil
      (List.ne_nil_of_mem ((hmem s).mp List.mem_cons_self))
    -- both first services have the highest confidence, so they are the first ones of that
    have hconfidence : s.confidence = t.confidence :=
      UInt8.le_antisymm (hothers.le_head ((hmem s).mp List.mem_cons_self))
        (h.le_head ((hmem t).mpr List.mem_cons_self))
    have hfirst := hsame s.confidence
    rw [atConfidence_cons, atConfidence_cons, if_pos rfl, if_pos hconfidence.symm] at hfirst
    obtain ⟨rfl, -⟩ := List.cons.inj hfirst
    have hrest : ∀ confidence,
        atConfidence confidence services = atConfidence confidence others := by
      intro confidence
      have hboth := hsame confidence
      rw [atConfidence_cons, atConfidence_cons] at hboth
      split at hboth
      · exact List.tail_eq_of_cons_eq hboth
      · exact hboth
    rw [ih h.of_cons hothers.of_cons hrest]

/-! ### Leaving services out -/

/-- **Ranking commutes with leaving services out.** -/
theorem rank_filter (keep : Service → Bool) (services : List Service) :
    rank (services.filter keep) = (rank services).filter keep := by
  refine (ranked_rank _).eq_of_atConfidence ((ranked_rank services).filter keep) fun k => ?_
  have hcomm : ∀ l : List Service,
      atConfidence k (l.filter keep) = (atConfidence k l).filter keep := fun l => by
    simp only [atConfidence, List.filter_filter, Bool.and_comm]
  rw [atConfidence_rank, hcomm, hcomm, atConfidence_rank]

/-! ### A service that comes last -/

theorem atConfidence_append (confidence : UInt8) (services others : List Service) :
    atConfidence confidence (services ++ others) =
      atConfidence confidence services ++ atConfidence confidence others :=
  List.filter_append services others

theorem atConfidence_atLeast (j k : UInt8) (services : List Service) :
    atConfidence j (atLeast k services) = if k ≤ j then atConfidence j services else [] := by
  rw [atConfidence, atLeast, List.filter_filter]
  split
  · refine List.filter_congr fun s _ => ?_
    grind
  · rw [List.filter_eq_nil_iff]
    grind

theorem atConfidence_below (j k : UInt8) (services : List Service) :
    atConfidence j (below k services) = if k ≤ j then [] else atConfidence j services := by
  rw [atConfidence, below, List.filter_filter]
  split
  · rw [List.filter_eq_nil_iff]
    grind
  · refine List.filter_congr fun s _ => ?_
    grind

/-- Services of at least some confidence, followed by services of less. -/
theorem ranked_atLeast_append_below (h : Ranked services) (confidence : UInt8) :
    Ranked (atLeast confidence services ++ below confidence services) := by
  refine List.pairwise_append.mpr ⟨h.filter _, h.filter _, fun a ha b hb => ?_⟩
  have ha : confidence ≤ a.confidence := of_decide_eq_true (List.mem_filter.mp ha).2
  have hb : b.confidence < confidence := of_decide_eq_true (List.mem_filter.mp hb).2
  exact UInt8.le_trans (UInt8.le_of_lt hb) ha

/-- A ranked list falls into these two parts. -/
theorem Ranked.eq_atLeast_append_below (h : Ranked services) (confidence : UInt8) :
    services = atLeast confidence services ++ below confidence services := by
  refine h.eq_of_atConfidence (ranked_atLeast_append_below h confidence) fun k => ?_
  rw [atConfidence_append, atConfidence_atLeast, atConfidence_below]
  split
  · rw [List.append_nil]
  · rfl

/-- **A service that comes last** is ranked behind those of at least its confidence. -/
theorem rank_append_singleton (services : List Service) (s : Service) :
    rank (services ++ [s]) =
      atLeast s.confidence (rank services) ++ s :: below s.confidence (rank services) := by
  have hparts := List.pairwise_append.mp
    (ranked_atLeast_append_below (ranked_rank services) s.confidence)
  refine (ranked_rank _).eq_of_atConfidence ?_ fun k => ?_
  · refine List.pairwise_append.mpr ⟨hparts.1, List.pairwise_cons.mpr ⟨fun b hb => ?_, hparts.2.1⟩,
      fun a ha b hb => ?_⟩
    · exact UInt8.le_of_lt (of_decide_eq_true (List.mem_filter.mp hb).2)
    · rcases List.mem_cons.mp hb with rfl | hb
      · exact of_decide_eq_true (List.mem_filter.mp ha).2
      · exact hparts.2.2 a ha b hb
  · rw [atConfidence_rank, atConfidence_append, atConfidence_append, atConfidence_cons,
      atConfidence_cons, atConfidence_atLeast, atConfidence_below, atConfidence_rank]
    by_cases hk : s.confidence = k
    · simp [hk, atConfidence]
    · by_cases hle : s.confidence ≤ k
      · simp [hk, hle, atConfidence]
      · simp [hk, hle, atConfidence]

end BannerMatch
