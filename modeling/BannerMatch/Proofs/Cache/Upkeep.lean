import BannerMatch.Proofs.Cache.Contents

/-!
# The upkeep of a cache

Sweeping and eviction go by the records, and entries that are written again or looked up too late
leave records behind. What keeps the two right is `Sound`, which holds after any history;
`wellKept_run` says what follows from it, however the clock goes:

* `FreesPlace`: eviction does not run out of records while the cache is full, and stops as soon as
  there is a free place;
* `SweepsAt`: sweeping takes away exactly the entries that have expired and gives their number,
  also if there are further records (`Cache.withRecords`), and a second time there is nothing left.

The number that sweeping gives is a difference of sizes. `removals` counts record by record
instead, and comes to the same since no fingerprint has two entries (`length_expire_add_removals`).
-/

namespace BannerMatch
namespace Cache

variable {c : Cache} {now : ℕ} {es : Entries} {rs : List Record}

/-! ### Records that come due -/

/-- How often a record that comes due takes an entry away: it does if there is an entry under its
fingerprint, and that has expired. -/
def removals (now : ℕ) (es : Entries) : List Record → ℕ
  | [] => 0
  | r :: rest =>
      if now < r.expiry then 0
      else
        removals now (es.dropIf r.key fun e => e.expiry ≤ now) rest +
          if (es.lookup r.key).any fun e => e.expiry ≤ now then 1 else 0

theorem dropIf_cons (key k : Fingerprint) (e : Entry) (rest : Entries) (test : Entry → Bool) :
    Entries.dropIf ((k, e) :: rest) key test =
      if k = key ∧ test e = true then rest.dropIf key test else (k, e) :: rest.dropIf key test := by
  unfold Entries.dropIf
  rw [List.filter_cons]
  by_cases h : k = key ∧ test e = true
  · simp [h]
  · rw [if_neg h, if_pos (by simpa using not_and_or.mp h)]

/-- One entry is dropped at most: the one under the fingerprint, if it passes the test. -/
theorem length_dropIf (hes : (es.map Prod.fst).Nodup) (key : Fingerprint) (test : Entry → Bool) :
    (es.dropIf key test).length + (if (es.lookup key).any test then 1 else 0) = es.length := by
  induction es with
  | nil => rfl
  | cons p rest ih =>
    obtain ⟨k, e⟩ := p
    rw [List.map_cons, List.nodup_cons] at hes
    rw [dropIf_cons]
    by_cases hkey : k = key
    · -- no other entry is under the fingerprint, so the rest stays
      subst hkey
      have hrest : Entries.dropIf rest k test = rest := by
        apply List.filter_eq_self.mpr
        intro p hp
        have hne : p.1 ≠ k := fun h => hes.1 (List.mem_map.mpr ⟨p, hp, h⟩)
        simp [hne]
      rw [List.lookup_cons_self, hrest]
      cases htest : test e with
      | true => simp [htest]
      | false => simp [htest]
    · have hlookup : List.lookup key ((k, e) :: rest) = rest.lookup key := by
        rw [List.lookup_cons, beq_false_of_ne (Ne.symm hkey)]
      rw [if_neg fun h => hkey h.1, hlookup, List.length_cons, List.length_cons, ← ih hes.2]
      omega

/-- **Counting record by record** gives the number of entries that sweeping takes away. -/
theorem length_expire_add_removals (hes : (es.map Prod.fst).Nodup) (now : ℕ) (rs : List Record) :
    (expire now es rs).1.length + removals now es rs = es.length := by
  induction rs generalizing es with
  | nil => rfl
  | cons r rest ih =>
    unfold expire removals
    split
    · rfl
    · have hone := length_dropIf hes r.key fun e => e.expiry ≤ now
      have hrest := ih (hes.sublist ((dropIf_sublist es r.key fun e => e.expiry ≤ now).map _))
      omega

/-! ### Sweeping -/

/-- What sweeping does at the instant `now`. -/
structure SweepsAt (c : Cache) (now : ℕ) : Prop where
  /-- Exactly the entries that have expired are taken away. -/
  entries : (c.sweep now).2.entries = c.entries.filter fun p => now < p.2.expiry
  number : (c.sweep now).1 = c.entries.countP fun p => p.2.expiry ≤ now
  removals : (c.sweep now).1 = removals now c.entries c.records
  again : ((c.sweep now).2.sweep now).1 = 0

theorem Sound.sweep_number (hc : Sound c) (now : ℕ) :
    (c.sweep now).1 = c.entries.countP fun p => p.2.expiry ≤ now := by
  have hleft : (expire now c.entries c.records).1.length = c.entries.countP (isLive now) := by
    rw [expire_entries hc.covered hc.inOrder, List.countP_eq_length_filter]
  have hboth := List.length_eq_countP_add_countP (isLive now) (l := c.entries)
  have hgone : c.entries.countP (fun p => decide ¬ isLive now p = true) =
      c.entries.countP fun p => p.2.expiry ≤ now := by
    refine List.countP_congr fun p _ => ?_
    simp [isLive]
  show c.entries.length - (expire now c.entries c.records).1.length = _
  omega

theorem Sound.sweepsAt (hc : Sound c) (now : ℕ) : SweepsAt c now where
  entries := hc.sweep_entries now
  number := hc.sweep_number now
  removals := by
    have hcount := length_expire_add_removals hc.keys now c.records
    show c.entries.length - (expire now c.entries c.records).1.length = _
    omega
  again := by
    rw [(hc.sweep now).sweep_number, hc.sweep_entries, List.countP_eq_zero]
    intro p hp
    have hlive := isLive_iff.mp (List.mem_filter.mp hp).2
    simp [hlive]

/-! ### Further records -/

/-- A cache with further records: of entries that are not there, of other instants, or once more. -/
def withRecords (c : Cache) (extra : List Record) : Cache :=
  { c with records := extra.foldr schedule c.records }

theorem mem_foldr_schedule {r : Record} (extra : List Record) (h : r ∈ rs) :
    r ∈ extra.foldr schedule rs := by
  induction extra with
  | nil => exact h
  | cons s rest ih => exact mem_schedule.mpr (Or.inr ih)

theorem InOrder.foldr_schedule (h : InOrder rs) (extra : List Record) :
    InOrder (extra.foldr Cache.schedule rs) := by
  induction extra with
  | nil => exact h
  | cons s rest ih => exact ih.schedule s

/-- **Further records do no harm.** -/
theorem Sound.withRecords (hc : Sound c) (extra : List Record) : Sound (c.withRecords extra) :=
  hc.mono (List.Sublist.refl _) (fun p hp => mem_foldr_schedule extra (hc.covered p hp))
    (hc.inOrder.foldr_schedule extra)

/-! ### Eviction -/

/-- The entries after the first `n` records were taken off in an eviction, each with the entry that
it is about, unless that has been written again since. -/
def evicted (es : Entries) (rs : List Record) (n : ℕ) : Entries :=
  (rs.take n).foldl (fun es r => es.dropIf r.key fun e => e.expiry == r.expiry) es

theorem evicted_cons_succ (es : Entries) (r : Record) (rs : List Record) (n : ℕ) :
    evicted es (r :: rs) (n + 1) =
      evicted (es.dropIf r.key fun e => e.expiry == r.expiry) rs n := rfl

/-- The records that are left cover the entries that are left. -/
theorem Covered.evicted (h : Covered es rs) (n : ℕ) :
    Covered (evicted es rs n) (rs.drop n) := by
  induction rs generalizing es n with
  | nil => cases n <;> exact h
  | cons r rest ih =>
    cases n with
    | zero => exact h
    | succ n =>
      rw [evicted_cons_succ, List.drop_succ_cons]
      exact ih (h.dropIf fun e he => by simpa using he) n

/-- Eviction takes records off as long as the cache is full. -/
theorem exists_evict_eq (capacity : ℕ) (es : Entries) (rs : List Record) :
    ∃ n, evict capacity es rs = (evicted es rs n, rs.drop n) ∧
      ∀ m < n, capacity ≤ (evicted es rs m).length := by
  induction rs generalizing es with
  | nil => exact ⟨0, rfl, fun m hm => absurd hm (Nat.not_lt_zero m)⟩
  | cons r rest ih =>
    rw [evict]
    split
    · exact ⟨0, rfl, fun m hm => absurd hm (Nat.not_lt_zero m)⟩
    · rename_i hfull
      obtain ⟨n, heq, hbefore⟩ := ih (es.dropIf r.key fun e => e.expiry == r.expiry)
      refine ⟨n + 1, heq, fun m hm => ?_⟩
      cases m with
      | zero => exact Nat.le_of_not_lt hfull
      | succ m => exact hbefore m (by omega)

/-- What eviction does. -/
structure FreesPlace (c : Cache) : Prop where
  /-- While the cache is full, there is a record left to go by. -/
  lasts : ∀ n, c.capacity ≤ (evicted c.entries c.records n).length → n < c.records.length
  /-- Eviction ends with a free place, and it ends with the first one. -/
  ends : ∃ n, evict c.capacity c.entries c.records =
      (evicted c.entries c.records n, c.records.drop n) ∧
    (evicted c.entries c.records n).length < c.capacity ∧
    ∀ m < n, c.capacity ≤ (evicted c.entries c.records m).length

theorem Sound.freesPlace (hc : Sound c) (hpos : 0 < c.capacity) : FreesPlace c where
  lasts := by
    intro n hfull
    by_contra hnone
    -- without a record left there is no entry left either
    have hcov := hc.covered.evicted n
    rw [List.drop_eq_nil_of_le (by omega)] at hcov
    rw [hcov.eq_nil, List.length_nil] at hfull
    omega
  ends := by
    obtain ⟨n, heq, hbefore⟩ := exists_evict_eq c.capacity c.entries c.records
    have hroom := evict_length_lt hpos hc.covered
    rw [heq] at hroom
    exact ⟨n, heq, hroom, hbefore⟩

/-! ### Histories -/

/-- A cache whose records serve their purpose. -/
structure WellKept (c : Cache) : Prop where
  sound : Sound c
  frees : 0 < c.capacity → FreesPlace c
  sweeps : ∀ (extra : List Record) (now : ℕ), SweepsAt (c.withRecords extra) now

/-- **The upkeep of a cache.** After any history every entry has a record of its own expiry, every
entry is of the current generation, and there are no more entries than the capacity allows. So
eviction ends with a free place and does not run out of records before. And sweeping takes away
exactly the entries that have expired and gives their number, whatever other records there are; a
second time it gives zero. -/
theorem wellKept_run (ttl capacity : ℕ) (history : List (ℕ × Request)) :
    WellKept (({ ttl := ttl, capacity := capacity } : Cache).run history) := by
  have hc : Sound (({ ttl := ttl, capacity := capacity } : Cache).run history) :=
    (Sound.empty { ttl := ttl, capacity := capacity }).run history
  refine ⟨hc, fun hpos => ?_, fun extra now => ?_⟩
  · exact hc.freesPlace hpos
  · exact (hc.withRecords extra).sweepsAt now

/-- Three of four records are left behind, by entries that were written again or looked up too
late; sweeping finds one entry that has expired. -/
example : ((({ ttl := 10, capacity := 2 } : Cache).run
    [(1, .put 1 [foundBy "a"] 0), (1, .put 1 [foundBy "b"] 0), (1, .put 2 [foundBy "c"] 0),
      (4, .put 1 [foundBy "d"] 0), (12, .get 2)]).sweep 14).1 = 1 := by decide

end Cache
end BannerMatch
