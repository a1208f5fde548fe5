import BannerMatch.Cache.Basic
import Mathlib.Data.List.TakeWhile
import Mathlib.Tactic

/-!
# Entries and records of a cache

The records say when which entry expires; sweeping and eviction work from the records alone. Both
are right because of two facts, which every operation keeps:

* `Covered es rs`: every entry has a record of its own expiry under its own fingerprint;
* `InOrder rs`: the records stand in the order of their instants.

Records of entries that were overwritten or removed do no harm: `expire_entries` says that sweeping
leaves exactly the entries that have not expired, and `evict_entries` that eviction takes away the
entries that expire first, whatever other records there are.
-/

namespace BannerMatch
namespace Cache

/-! ### Entries -/

theorem mem_dropIf {es : Entries} {key : Fingerprint} {test : Entry → Bool}
    {p : Fingerprint × Entry} :
    p ∈ es.dropIf key test ↔ p ∈ es ∧ ¬ (p.1 = key ∧ test p.2 = true) := by
  rw [Entries.dropIf, List.mem_filter, Bool.not_eq_true', ← Bool.not_eq_true, Bool.and_eq_true,
    beq_iff_eq]

theorem dropIf_sublist (es : Entries) (key : Fingerprint) (test : Entry → Bool) :
    List.Sublist (es.dropIf key test) es := List.filter_sublist

/-- What one test has dropped does not matter to a filter that drops it as well. -/
theorem filter_dropIf {es : Entries} {key : Fingerprint} {test : Entry → Bool}
    {keep : Fingerprint × Entry → Bool} (h : ∀ p ∈ es, test p.2 = true → keep p = false) :
    (es.dropIf key test).filter keep = es.filter keep := by
  rw [Entries.dropIf, List.filter_filter]
  refine List.filter_congr fun p hp => ?_
  cases ht : test p.2 with
  | false => simp
  | true => simp [h p hp ht]

theorem lookup_eq_some_of_mem {es : Entries} (hes : (es.map Prod.fst).Nodup)
    {key : Fingerprint} {e : Entry} (h : (key, e) ∈ es) : es.lookup key = some e := by
  induction es with
  | nil => cases h
  | cons p rest ih =>
    obtain ⟨k, x⟩ := p
    rw [List.map_cons, List.nodup_cons] at hes
    rcases List.mem_cons.1 h with h | h
    · cases h; exact List.lookup_cons_self
    · have hne : (key == k) = false := by
        simpa using fun he : key = k => hes.1 (List.mem_map.2 ⟨_, h, he⟩)
      rw [List.lookup_cons, hne]
      exact ih hes.2 h

theorem mem_of_lookup_eq_some {es : Entries} {key : Fingerprint} {e : Entry}
    (h : es.lookup key = some e) : (key, e) ∈ es := by
  obtain ⟨l₁, l₂, rfl, -⟩ := List.lookup_eq_some_iff.1 h
  simp

/-! ### Records -/

/-- Every entry has a record of its own expiry. -/
def Covered (es : Entries) (rs : List Record) : Prop :=
  ∀ p ∈ es, (⟨p.2.expiry, p.1⟩ : Record) ∈ rs

/-- The records stand in the order of their instants. -/
def InOrder (rs : List Record) : Prop := rs.Pairwise fun r s => r.expiry ≤ s.expiry

theorem Covered.eq_nil {es : Entries} (h : Covered es []) : es = [] := by
  cases es with
  | nil => rfl
  | cons p rest => exact absurd (h p List.mem_cons_self) List.not_mem_nil

theorem Covered.mono {es es' : Entries} {rs : List Record} (h : Covered es rs)
    (hsub : es'.Sublist es) : Covered es' rs := fun p hp => h p (hsub.subset hp)

/-- Once the entry that a record is about is gone, the record is not needed. -/
theorem Covered.dropIf {es : Entries} {r : Record} {rs : List Record} {test : Entry → Bool}
    (h : Covered es (r :: rs)) (ht : ∀ e : Entry, e.expiry = r.expiry → test e = true) :
    Covered (es.dropIf r.key test) rs := by
  intro p hp
  obtain ⟨hmem, hkept⟩ := mem_dropIf.1 hp
  rcases List.mem_cons.1 (h p hmem) with heq | hin
  · subst heq
    exact absurd ⟨rfl, ht p.2 rfl⟩ hkept
  · exact hin

theorem mem_schedule {r s : Record} {rs : List Record} :
    s ∈ schedule r rs ↔ s = r ∨ s ∈ rs := by
  induction rs with
  | nil => simp [schedule]
  | cons q rest ih =>
    rw [schedule]
    split
    · rw [List.mem_cons]
    · rw [List.mem_cons, ih, List.mem_cons]
      tauto

theorem expiry_le_of_precedes {r s : Record} (h : r.precedes s = true) :
    r.expiry ≤ s.expiry := by
  simp [Record.precedes] at h
  omega

theorem expiry_le_of_not_precedes {r s : Record} (h : ¬ r.precedes s = true) :
    s.expiry ≤ r.expiry := by
  simp [Record.precedes] at h
  exact h.1

theorem InOrder.schedule {rs : List Record} (h : InOrder rs) (r : Record) :
    InOrder (schedule r rs) := by
  induction rs with
  | nil => exact List.pairwise_singleton _ _
  | cons s rest ih =>
    obtain ⟨hs, hrest⟩ := List.pairwise_cons.1 h
    rw [Cache.schedule]
    split
    · rename_i hp
      have hrs := expiry_le_of_precedes hp
      refine List.pairwise_cons.2 ⟨fun q hq => ?_, h⟩
      rcases List.mem_cons.1 hq with rfl | hq
      · exact hrs
      · exact hrs.trans (hs q hq)
    · rename_i hp
      refine List.pairwise_cons.2 ⟨fun q hq => ?_, ih hrest⟩
      rcases mem_schedule.1 hq with rfl | hq
      · exact expiry_le_of_not_precedes hp
      · exact hs q hq

/-! ### Sweeping -/

/-- Whether an entry has not expired by `now`. -/
def isLive (now : ℕ) (p : Fingerprint × Entry) : Bool := now < p.2.expiry

theorem isLive_iff {now : ℕ} {p : Fingerprint × Entry} :
    isLive now p = true ↔ now < p.2.expiry := decide_eq_true_iff

theorem expire_sublist (now : ℕ) (es : Entries) (rs : List Record) :
    (expire now es rs).1.Sublist es := by
  induction rs generalizing es with
  | nil => exact List.Sublist.refl _
  | cons r rest ih =>
    rw [expire]
    split
    · exact List.Sublist.refl _
    · exact (ih _).trans (dropIf_sublist es _ _)

theorem expire_records (now : ℕ) (es : Entries) (rs : List Record) :
    (expire now es rs).2 = rs.dropWhile fun r => decide (r.expiry ≤ now) := by
  induction rs generalizing es with
  | nil => rfl
  | cons r rest ih =>
    rw [expire]
    split
    · rename_i h
      rw [List.dropWhile_cons_of_neg (by simpa using h)]
    · rename_i h
      rw [List.dropWhile_cons_of_pos (by simpa using h)]
      exact ih _

/-- **Sweeping leaves exactly the entries that have not expired.** -/
theorem expire_entries {now : ℕ} {es : Entries} {rs : List Record} (hc : Covered es rs)
    (ho : InOrder rs) : (expire now es rs).1 = es.filter (isLive now) := by
  induction rs generalizing es with
  | nil => rw [hc.eq_nil]; rfl
  | cons r rest ih =>
    obtain ⟨hr, hrest⟩ := List.pairwise_cons.1 ho
    rw [expire]
    split
    · -- the first record has not come due, so none has
      rename_i h
      refine (List.filter_eq_self.2 fun p hp => ?_).symm
      rcases List.mem_cons.1 (hc p hp) with heq | hin
      · have : p.2.expiry = r.expiry := congrArg Record.expiry heq
        rw [isLive_iff]; omega
      · have : r.expiry ≤ p.2.expiry := hr _ hin
        rw [isLive_iff]; omega
    · -- the record has come due, and with it the entry of that expiry, if it is still there
      rename_i h
      rw [ih (hc.dropIf fun e he => by simp only [decide_eq_true_eq]; omega) hrest]
      refine filter_dropIf fun p _ hp => ?_
      rw [decide_eq_true_eq] at hp
      rw [← Bool.not_eq_true, isLive_iff]
      omega

theorem Covered.expire {now : ℕ} {es : Entries} {rs : List Record} (hc : Covered es rs)
    (ho : InOrder rs) : Covered (expire now es rs).1 (expire now es rs).2 := by
  rw [expire_entries hc ho, expire_records]
  intro p hp
  obtain ⟨hmem, hlive⟩ := List.mem_filter.1 hp
  have hrec := hc p hmem
  rw [← List.takeWhile_append_dropWhile (p := fun r => decide (r.expiry ≤ now)) (l := rs),
    List.mem_append] at hrec
  rcases hrec with hrec | hrec
  · -- a record that was taken off has come due, so its entry is gone
    have hdue := List.mem_takeWhile_imp hrec
    have hle : p.2.expiry ≤ now := of_decide_eq_true hdue
    rw [isLive_iff] at hlive
    omega
  · exact hrec

theorem InOrder.expire {now : ℕ} {es : Entries} {rs : List Record} (ho : InOrder rs) :
    InOrder (expire now es rs).2 := by
  rw [expire_records]
  exact List.Pairwise.sublist (List.dropWhile_sublist _) ho

/-! ### Eviction -/

theorem evict_sublist (capacity : ℕ) (es : Entries) (rs : List Record) :
    (evict capacity es rs).1.Sublist es := by
  induction rs generalizing es with
  | nil => exact List.Sublist.refl _
  | cons r rest ih =>
    rw [evict]
    split
    · exact List.Sublist.refl _
    · exact (ih _).trans (dropIf_sublist es _ _)

theorem InOrder.evict {capacity : ℕ} {es : Entries} {rs : List Record} (ho : InOrder rs) :
    InOrder (evict capacity es rs).2 := by
  induction rs generalizing es with
  | nil => exact ho
  | cons r rest ih =>
    rw [Cache.evict]
    split
    · exact ho
    · exact ih (List.pairwise_cons.1 ho).2

theorem Covered.evict {capacity : ℕ} {es : Entries} {rs : List Record} (hc : Covered es rs) :
    Covered (evict capacity es rs).1 (evict capacity es rs).2 := by
  induction rs generalizing es with
  | nil => exact hc
  | cons r rest ih =>
    rw [Cache.evict]
    split
    · exact hc
    · exact ih (hc.dropIf fun e he => by simpa using he)

/-- Eviction always frees a place: it does not run out of records while the cache is full. -/
theorem evict_length_lt {capacity : ℕ} (hpos : 0 < capacity) {es : Entries} {rs : List Record}
    (hc : Covered es rs) : (evict capacity es rs).1.length < capacity := by
  induction rs generalizing es with
  | nil => rw [hc.eq_nil]; exact hpos
  | cons r rest ih =>
    rw [evict]
    split
    · assumption
    · exact ih (hc.dropIf fun e he => by simpa using he)

/-- Dropping the entry of the earliest record drops the last of entries in falling order. -/
theorem dropIf_eq_or_eq_dropLast {es : Entries} {r : Record} {rs : List Record}
    (hc : Covered es (r :: rs)) (ho : InOrder (r :: rs))
    (hes : es.Pairwise fun p q => q.2.expiry < p.2.expiry) :
    (es.dropIf r.key fun e => e.expiry == r.expiry) = es ∨
      (es.dropIf r.key fun e => e.expiry == r.expiry) = es.dropLast := by
  rcases List.eq_nil_or_concat es with rfl | ⟨front, last, rfl⟩
  · exact Or.inl rfl
  rw [List.concat_eq_append] at hc hes ⊢
  obtain ⟨-, -, hlt⟩ := List.pairwise_append.1 hes
  -- no entry before the last one can be the one that the record is about
  have hfront : ∀ p ∈ front, ¬ (p.1 = r.key ∧ p.2.expiry = r.expiry) := by
    rintro p hp ⟨-, he⟩
    have hl : last.2.expiry < p.2.expiry := hlt p hp last List.mem_cons_self
    rcases List.mem_cons.1 (hc last (by simp)) with heq | hin
    · have : last.2.expiry = r.expiry := congrArg Record.expiry heq
      omega
    · have : r.expiry ≤ last.2.expiry := (List.pairwise_cons.1 ho).1 _ hin
      omega
  have hkeep : (front.filter fun p => !(p.1 == r.key && p.2.expiry == r.expiry)) = front :=
    List.filter_eq_self.2 fun p hp => by simpa using not_and_or.1 (hfront p hp)
  rw [Entries.dropIf, List.dropLast_concat, List.filter_append, hkeep]
  by_cases hlast : last.1 = r.key ∧ last.2.expiry = r.expiry
  · right; simp [hlast.1, hlast.2]
  · left; simpa using not_and_or.1 hlast

/-- **Eviction keeps the entries that expire last.** -/
theorem evict_entries {capacity : ℕ} (hpos : 0 < capacity) {es : Entries} {rs : List Record}
    (hc : Covered es rs) (ho : InOrder rs)
    (hes : es.Pairwise fun p q => q.2.expiry < p.2.expiry) :
    (evict capacity es rs).1 = es.take (capacity - 1) := by
  induction rs generalizing es with
  | nil => rw [hc.eq_nil, List.take_nil]; rfl
  | cons r rest ih =>
    rw [evict]
    split
    · rename_i hroom
      exact (List.take_of_length_le (by show es.length ≤ _; omega)).symm
    · rename_i hfull
      have hdrop := dropIf_eq_or_eq_dropLast hc ho hes
      rw [ih (hc.dropIf fun e he => by simpa using he) (List.pairwise_cons.1 ho).2
        (hes.sublist (dropIf_sublist es _ _))]
      -- a record of an entry that was overwritten takes nothing away, any other the last entry
      rcases hdrop with h | h
      · rw [h]
      · rw [h, List.dropLast_eq_take, List.take_take]
        congr 1
        omega

end Cache
end BannerMatch
