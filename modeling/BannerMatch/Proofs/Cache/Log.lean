import BannerMatch.Proofs.Cache.Invariant

/-!
# What a history has written

A `Log` is the plain account of a history: how often the cache was invalidated, and the writes that
were accepted since then, the most recent first. It knows nothing of entries, records, sweeping or
eviction.

* `Log.note` adds a request to a log, `Log.noteAll` a history.
* `Log.acceptedAt` are the instants of all writes that are accepted in a history.
* `latest` keeps of a list of writes the last one under every fingerprint, the most recent first.
-/

namespace BannerMatch
namespace Cache

/-- A write that was accepted. -/
structure Write where
  instant : ℕ
  key : Fingerprint
  services : List Service
  deriving DecidableEq, Repr

/-- The accepted writes since the last invalidation, the most recent first. -/
structure Log where
  /-- The number of invalidations so far. -/
  generation : ℕ := 0
  writes : List Write := []
  deriving DecidableEq, Repr

/-- The log after a request to a cache of a given capacity. Services are accepted if there are some,
if the cache has any room at all, and if they are of the generation of now. -/
def Log.note (capacity : ℕ) (l : Log) (now : ℕ) : Request → Log
  | .put key services generation =>
      if services ≠ [] ∧ 0 < capacity ∧ generation = l.generation then
        { l with writes := ⟨now, key, services⟩ :: l.writes }
      else l
  | .get _ => l
  | .sweep => l
  | .invalidate => { generation := l.generation + 1, writes := [] }

/-- The log after requests, each at its instant. -/
def Log.noteAll (capacity : ℕ) (l : Log) : List (ℕ × Request) → Log
  | [] => l
  | (now, request) :: rest => (l.note capacity now request).noteAll capacity rest

/-- The instants of the writes that are accepted in a history, invalidations or not. -/
def Log.acceptedAt (capacity : ℕ) (l : Log) : List (ℕ × Request) → List ℕ
  | [] => []
  | (now, request) :: rest =>
      let others := (l.note capacity now request).acceptedAt capacity rest
      match request with
      | .put _ services generation =>
          if services ≠ [] ∧ 0 < capacity ∧ generation = l.generation then now :: others else others
      | _ => others

/-- The last write under every fingerprint, the most recent first. -/
def latest : List Write → List Write
  | [] => []
  | w :: rest => w :: (latest rest).filter fun v => v.key != w.key

theorem latest_sublist (ws : List Write) : (latest ws).Sublist ws := by
  induction ws with
  | nil => exact List.Sublist.refl _
  | cons w rest ih => exact (List.filter_sublist.trans ih).cons_cons w

theorem nodup_keys_latest (ws : List Write) : ((latest ws).map Write.key).Nodup := by
  induction ws with
  | nil => exact List.nodup_nil
  | cons w rest ih =>
    rw [latest, List.map_cons, List.nodup_cons]
    refine ⟨fun hmem => ?_, ih.sublist (List.filter_sublist.map _)⟩
    obtain ⟨v, hv, hkey⟩ := List.mem_map.1 hmem
    simpa [hkey] using (List.mem_filter.1 hv).2

/-! ### Lists -/

section Lists

variable {α : Type} {p : α → Bool}

/-- In a list whose members that pass a test come first, they are a front part. -/
theorem exists_filter_eq_take {l : List α}
    (h : l.Pairwise fun a b => p b = true → p a = true) : ∃ n, l.filter p = l.take n := by
  induction l with
  | nil => exact ⟨0, rfl⟩
  | cons a rest ih =>
    obtain ⟨ha, hrest⟩ := List.pairwise_cons.1 h
    cases hp : p a with
    | true =>
      obtain ⟨n, hn⟩ := ih hrest
      exact ⟨n + 1, by rw [List.filter_cons_of_pos hp, hn, List.take_succ_cons]⟩
    | false =>
      refine ⟨0, List.filter_eq_nil_iff.2 fun b hb hpb => ?_⟩
      rcases List.mem_cons.1 hb with rfl | hb
      · rw [hp] at hpb; cases hpb
      · rw [ha b hb hpb] at hp; cases hp

/-- A part of a list that misses only members that fail a test. -/
theorem filter_eq_of_sublist {as bs : List α} (hsub : as.Sublist bs) (hbs : bs.Nodup)
    (h : ∀ b ∈ bs, p b = true → b ∈ as) : as.filter p = bs.filter p := by
  refine (hsub.filter p).eq_of_length_le ?_
  refine ((hbs.filter p).subperm fun b hb => ?_).length_le
  obtain ⟨hmem, hpb⟩ := List.mem_filter.1 hb
  exact List.mem_filter.2 ⟨h b hmem hpb, hpb⟩

/-- Where one member at most fails a test, the first `n` that pass it are among the first
`n + 1`. -/
theorem take_filter_subset {l : List α}
    (h : l.Pairwise fun a b => p a = false → p b = true) (n : ℕ) :
    (l.filter p).take n ⊆ l.take (n + 1) := by
  induction l generalizing n with
  | nil => simp
  | cons a rest ih =>
    obtain ⟨ha, hrest⟩ := List.pairwise_cons.1 h
    rw [List.take_succ_cons]
    cases hp : p a with
    | true =>
      rw [List.filter_cons_of_pos hp]
      cases n with
      | zero => simp
      | succ n =>
        rw [List.take_succ_cons]
        exact List.cons_subset_cons _ (ih hrest n)
    | false =>
      rw [List.filter_cons_of_neg (by simp [hp]),
        List.filter_eq_self.2 fun b hb => ha b hb hp]
      exact List.subset_cons_of_subset _ (List.Subset.refl _)

/-- Where the first `n` members pass a test, they are the first `n` that do. -/
theorem take_filter_of_forall {l : List α} {n : ℕ} (h : ∀ a ∈ l.take n, p a = true) :
    (l.filter p).take n = l.take n := by
  induction l generalizing n with
  | nil => rfl
  | cons a rest ih =>
    cases n with
    | zero => rfl
    | succ n =>
      rw [List.take_succ_cons, List.forall_mem_cons] at h
      rw [List.filter_cons_of_pos h.1, List.take_succ_cons, List.take_succ_cons, ih h.2]

end Lists

end Cache
end BannerMatch
