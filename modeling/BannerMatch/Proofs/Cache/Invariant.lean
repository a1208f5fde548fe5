import BannerMatch.Proofs.Cache.Records

/-!
# Histories of a cache

A `Request` is one use of a cache, `Cache.run` carries out requests one after the other, each at
its instant. `Cache.Sound` is what holds between any two requests:

* the entries are covered by the records, and the records are in order;
* no fingerprint has two entries, every entry is of the current generation, and there are at most
  as many entries as the capacity allows.

`Sound.perform` and `Sound.run` say that requests keep it. The instants play no role here: it holds
however the clock goes, and also if writes break down because it has gone too far.
-/

namespace BannerMatch
namespace Cache

/-- A use of a cache. -/
inductive Request
  | put (key : Fingerprint) (services : List Service) (generation : ℕ)
  | get (key : Fingerprint)
  | sweep
  | invalidate
  deriving DecidableEq, Repr

/-- The cache after a request at the instant `now`, also if that broke down. -/
def perform (c : Cache) (now : ℕ) : Request → Cache
  | .put key services generation => (c.put now key services generation).2
  | .get key => (c.get now key).2
  | .sweep => (c.sweep now).2
  | .invalidate => c.invalidate

/-- The cache after requests, each at its instant. -/
def run (c : Cache) : List (ℕ × Request) → Cache
  | [] => c
  | (now, request) :: rest => (c.perform now request).run rest

/-- What holds of a cache between requests. -/
structure Sound (c : Cache) : Prop where
  covered : Covered c.entries c.records
  inOrder : InOrder c.records
  keys : (c.entries.map Prod.fst).Nodup
  current : ∀ p ∈ c.entries, p.2.generation = c.generation
  size_le : c.size ≤ c.capacity

/-- A cache without entries and records is sound. -/
theorem Sound.empty (c : Cache) : Sound { c with entries := [], records := [] } where
  covered := fun _ hp => absurd hp List.not_mem_nil
  inOrder := List.Pairwise.nil
  keys := List.nodup_nil
  current := fun _ hp => absurd hp List.not_mem_nil
  size_le := Nat.zero_le _

/-- Fewer entries of a sound cache, with records that cover them. -/
theorem Sound.mono {c : Cache} (hc : Sound c) {es : Entries} {rs : List Record}
    (hsub : es.Sublist c.entries) (hcov : Covered es rs) (hord : InOrder rs) :
    Sound { c with entries := es, records := rs } where
  covered := hcov
  inOrder := hord
  keys := hc.keys.sublist (hsub.map _)
  current := fun p hp => hc.current p (hsub.subset hp)
  size_le := hsub.length_le.trans hc.size_le

/-! ### Looking up -/

theorem get_entries_sublist (c : Cache) (now : ℕ) (key : Fingerprint) :
    (c.get now key).2.entries.Sublist c.entries := by
  rw [Cache.get]
  split
  · exact List.Sublist.refl _
  · split
    · exact List.Sublist.refl _
    · exact dropIf_sublist c.entries key fun e => !c.isFresh now e

/-- Looking up drops nothing that can be given out. -/
theorem mem_get_entries {c : Cache} {now : ℕ} {key : Fingerprint} {p : Fingerprint × Entry}
    (hp : p ∈ c.entries) (hfresh : c.isFresh now p.2 = true) :
    p ∈ (c.get now key).2.entries := by
  rw [Cache.get]
  split
  · exact hp
  · split
    · exact hp
    · have hkept : p ∈ c.entries.dropIf key fun e => !c.isFresh now e :=
        mem_dropIf.2 ⟨hp, fun h => by rw [hfresh] at h; exact absurd h.2 (by decide)⟩
      exact hkept

theorem get_eq_of_entries (c : Cache) (now : ℕ) (key : Fingerprint) :
    (c.get now key).2 = { c with entries := (c.get now key).2.entries } := by
  rw [Cache.get]
  split
  · rfl
  · split <;> rfl

theorem Sound.get {c : Cache} (hc : Sound c) (now : ℕ) (key : Fingerprint) :
    Sound (c.get now key).2 := by
  have hsub := get_entries_sublist c now key
  rw [get_eq_of_entries]
  exact hc.mono hsub (hc.covered.mono hsub) hc.inOrder

/-- What a look-up finds is held by an entry that has not expired. -/
theorem exists_of_get_eq_some {c : Cache} {now : ℕ} {key : Fingerprint}
    {services : List Service} (h : (c.get now key).1 = some services) :
    ∃ e, (key, e) ∈ c.entries ∧ now < e.expiry ∧ e.services = services := by
  rw [Cache.get] at h
  split at h
  · cases h
  · rename_i e he
    split at h
    · rename_i hfresh
      rw [isFresh, Bool.and_eq_true, decide_eq_true_eq] at hfresh
      exact ⟨e, mem_of_lookup_eq_some he, hfresh.2, Option.some.inj h⟩
    · cases h

/-- In a sound cache a look-up finds exactly what an entry that has not expired holds. -/
theorem Sound.get_eq_some_iff {c : Cache} (hc : Sound c) {now : ℕ} {key : Fingerprint}
    {services : List Service} :
    (c.get now key).1 = some services ↔
      ∃ e, (key, e) ∈ c.entries ∧ now < e.expiry ∧ e.services = services := by
  refine ⟨exists_of_get_eq_some, ?_⟩
  rintro ⟨e, he, hlive, rfl⟩
  have hfresh : c.isFresh now e = true := by
    rw [isFresh, Bool.and_eq_true, beq_iff_eq, decide_eq_true_eq]
    exact ⟨hc.current _ he, hlive⟩
  rw [Cache.get, lookup_eq_some_of_mem hc.keys he]
  exact congrArg Prod.fst (if_pos hfresh)

/-- A fingerprint has one entry only. -/
theorem Sound.eq_of_key_eq {c : Cache} (hc : Sound c) {p q : Fingerprint × Entry}
    (hp : p ∈ c.entries) (hq : q ∈ c.entries) (hkey : p.1 = q.1) : p = q :=
  List.inj_on_of_nodup_map hc.keys hp hq hkey

theorem Sound.isSome_get_iff {c : Cache} (hc : Sound c) {now : ℕ} {key : Fingerprint} :
    (c.get now key).1.isSome = true ↔ ∃ p ∈ c.entries, p.1 = key ∧ isLive now p = true := by
  rw [Option.isSome_iff_exists]
  constructor
  · rintro ⟨services, hget⟩
    obtain ⟨e, he, hlive, -⟩ := hc.get_eq_some_iff.mp hget
    exact ⟨(key, e), he, rfl, isLive_iff.mpr hlive⟩
  · rintro ⟨⟨k, e⟩, he, rfl, hlive⟩
    exact ⟨e.services, hc.get_eq_some_iff.mpr ⟨e, he, isLive_iff.mp hlive, rfl⟩⟩

/-- A look-up that finds something changes nothing. -/
theorem get_snd_of_isSome {c : Cache} {now : ℕ} {key : Fingerprint}
    (h : (c.get now key).1.isSome = true) : (c.get now key).2 = c := by
  rw [Cache.get]
  split
  · rfl
  · rename_i e he
    split
    · rfl
    · rename_i hstale
      simp [Cache.get, he, hstale] at h

/-- A look-up in vain leaves no entry under the fingerprint. -/
theorem Sound.get_entries_of_not_isSome {c : Cache} (hc : Sound c) {now : ℕ} {key : Fingerprint}
    (h : ¬ (c.get now key).1.isSome = true) :
    (c.get now key).2.entries = c.entries.filter fun p => p.1 != key := by
  have hstale : ∀ p ∈ c.entries, p.1 = key → c.isFresh now p.2 = false := by
    intro p hp hkey
    refine Bool.eq_false_of_not_eq_true fun hfresh => h ?_
    rw [isFresh, Bool.and_eq_true, decide_eq_true_eq] at hfresh
    exact hc.isSome_get_iff.mpr ⟨p, hp, hkey, isLive_iff.mpr hfresh.2⟩
  rw [Cache.get]
  split
  · rename_i hlookup
    refine (List.filter_eq_self.mpr fun p hp => ?_).symm
    rw [bne_iff_ne]
    rintro rfl
    rw [lookup_eq_some_of_mem hc.keys hp] at hlookup
    cases hlookup
  · rename_i e he
    rw [if_neg (by simp [hstale _ (mem_of_lookup_eq_some he) rfl])]
    refine List.filter_congr fun p hp => ?_
    by_cases hkey : p.1 = key
    · simp [hkey, hstale p hp hkey]
    · simp [beq_eq_false_iff_ne.mpr hkey, bne]

/-! ### Sweeping -/

theorem Sound.sweep_entries {c : Cache} (hc : Sound c) (now : ℕ) :
    (c.sweep now).2.entries = c.entries.filter (isLive now) :=
  expire_entries hc.covered hc.inOrder

theorem sweep_entries_sublist (c : Cache) (now : ℕ) :
    (c.sweep now).2.entries.Sublist c.entries := expire_sublist now c.entries c.records

theorem Sound.sweep {c : Cache} (hc : Sound c) (now : ℕ) : Sound (c.sweep now).2 :=
  hc.mono (sweep_entries_sublist c now) (hc.covered.expire hc.inOrder) hc.inOrder.expire

/-! ### Writing -/

theorem has_eq_true_iff {es : Entries} {key : Fingerprint} :
    es.has key = true ↔ ∃ p ∈ es, p.1 = key := by
  rw [Entries.has, List.lookup_isSome_iff]
  constructor
  · rintro ⟨p, hp, he⟩
    exact ⟨p, hp, (beq_iff_eq.1 he).symm⟩
  · rintro ⟨p, hp, rfl⟩
    exact ⟨p, hp, by simp⟩

theorem makeRoom_entries (c : Cache) (key : Fingerprint) :
    (c.makeRoom key).entries =
      if c.capacity ≤ c.size && !c.entries.has key then (evict c.capacity c.entries c.records).1
      else c.entries := by
  rw [Cache.makeRoom]
  split <;> rfl

theorem makeRoom_entries_sublist (c : Cache) (key : Fingerprint) :
    (c.makeRoom key).entries.Sublist c.entries := by
  rw [makeRoom_entries]
  split
  · exact evict_sublist _ _ _
  · exact List.Sublist.refl _

theorem Sound.makeRoom {c : Cache} (hc : Sound c) (key : Fingerprint) :
    Sound (c.makeRoom key) := by
  rw [Cache.makeRoom]
  split
  · exact hc.mono (evict_sublist _ _ _) hc.covered.evict hc.inOrder.evict
  · exact hc

/-- After room was made there is a place for an entry, its predecessor apart. -/
theorem Sound.length_dropIf_makeRoom_lt {c : Cache} (hc : Sound c) (hpos : 0 < c.capacity)
    (key : Fingerprint) :
    ((c.makeRoom key).entries.dropIf key fun _ => true).length < c.capacity := by
  rw [makeRoom_entries]
  split
  · have hlt := evict_length_lt hpos hc.covered
    exact lt_of_le_of_lt (dropIf_sublist _ _ _).length_le hlt
  · rename_i hroom
    -- nothing was evicted: the new entry takes the place of an old one, or there was room
    by_cases hhas : c.entries.has key = true
    · obtain ⟨p, hp, hkey⟩ := has_eq_true_iff.1 hhas
      refine lt_of_lt_of_le ?_ hc.size_le
      exact List.length_filter_lt_length_iff_exists.2 ⟨p, hp, by simp [hkey]⟩
    · have hlt : c.size < c.capacity := by simpa [hhas] using hroom
      exact lt_of_le_of_lt (dropIf_sublist _ _ _).length_le hlt

/-- Making room changes entries and records only. -/
theorem makeRoom_eq (c : Cache) (key : Fingerprint) :
    c.makeRoom key =
      { c with
        entries := (c.makeRoom key).entries
        records := (c.makeRoom key).records } := by
  rw [Cache.makeRoom]
  split <;> rfl

theorem Sound.write {c : Cache} (hc : Sound c) {key : Fingerprint}
    (hroom : (c.entries.dropIf key fun _ => true).length < c.capacity) (expiry : ℕ)
    (services : List Service) : Sound (c.write expiry key services) where
  covered := by
    intro p hp
    rcases List.mem_cons.1 hp with rfl | hp
    · exact mem_schedule.2 (Or.inl rfl)
    · exact mem_schedule.2 (Or.inr (hc.covered p (mem_dropIf.1 hp).1))
  inOrder := hc.inOrder.schedule _
  keys := by
    refine List.nodup_cons.2 ⟨fun hmem => ?_, hc.keys.sublist ((dropIf_sublist _ _ _).map _)⟩
    obtain ⟨p, hp, hkey⟩ := List.mem_map.1 hmem
    exact (mem_dropIf.1 hp).2 ⟨hkey, rfl⟩
  current := by
    intro p hp
    rcases List.mem_cons.1 hp with rfl | hp
    · rfl
    · exact hc.current p (mem_dropIf.1 hp).1
  size_le := hroom

theorem pos_of_accepts {c : Cache} {services : List Service} {generation : ℕ}
    (h : c.accepts services generation = true) : 0 < c.capacity := by
  simp only [accepts, Bool.and_eq_true, bne_iff_ne] at h
  exact Nat.pos_of_ne_zero h.1.2

/-- What a write does: it is not accepted, or it is made after a sweep, where there is room, or it
breaks down in its place. -/
theorem put_cases (c : Cache) (now : ℕ) (key : Fingerprint) (services : List Service)
    (generation : ℕ) :
    (¬ c.accepts services generation = true ∧
      c.put now key services generation = (.ok (), c)) ∨
    (c.accepts services generation = true ∧ now + c.ttl < instantLimit ∧
      c.put now key services generation =
        (.ok (), ((c.sweep now).2.makeRoom key).write (now + c.ttl) key services)) ∨
    (c.accepts services generation = true ∧ instantLimit ≤ now + c.ttl ∧
      c.put now key services generation =
        (.error .instantOutOfRange, (c.sweep now).2.makeRoom key)) := by
  rw [Cache.put, later?]
  by_cases haccepts : c.accepts services generation = true
  · rw [if_pos haccepts]
    by_cases hfits : now + c.ttl < instantLimit
    · rw [if_pos hfits]
      exact .inr (.inl ⟨haccepts, hfits, rfl⟩)
    · rw [if_neg hfits]
      exact .inr (.inr ⟨haccepts, Nat.le_of_not_lt hfits, rfl⟩)
  · rw [if_neg haccepts]
    exact .inl ⟨haccepts, rfl⟩

/-- A write changes entries and records only. -/
theorem put_eq (c : Cache) (now : ℕ) (key : Fingerprint) (services : List Service)
    (generation : ℕ) :
    (c.put now key services generation).2 =
      { c with
        entries := (c.put now key services generation).2.entries
        records := (c.put now key services generation).2.records } := by
  rcases c.put_cases now key services generation with ⟨-, heq⟩ | ⟨-, -, heq⟩ | ⟨-, -, heq⟩
  · rw [heq]
  · rw [heq, makeRoom_eq]
    rfl
  · rw [heq, makeRoom_eq]
    rfl

theorem put_of_accepts {c : Cache} {services : List Service} {generation now : ℕ}
    (h : c.accepts services generation = true) (hfits : now + c.ttl < instantLimit)
    (key : Fingerprint) :
    c.put now key services generation =
      (.ok (), ((c.sweep now).2.makeRoom key).write (now + c.ttl) key services) := by
  rcases c.put_cases now key services generation with ⟨hnot, -⟩ | ⟨-, -, heq⟩ | ⟨-, hlate, -⟩
  · exact absurd h hnot
  · exact heq
  · omega

theorem put_of_not_accepts {c : Cache} {services : List Service} {generation : ℕ}
    (h : ¬ c.accepts services generation = true) (now : ℕ) (key : Fingerprint) :
    c.put now key services generation = (.ok (), c) := if_neg h

/-- A write within the range of the clock does not break down. -/
theorem put_fst_of_lt {c : Cache} {now : ℕ} (hfits : now + c.ttl < instantLimit)
    (key : Fingerprint) (services : List Service) (generation : ℕ) :
    (c.put now key services generation).1 = .ok () := by
  rcases c.put_cases now key services generation with ⟨-, heq⟩ | ⟨-, -, heq⟩ | ⟨-, hlate, -⟩
  · rw [heq]
  · rw [heq]
  · omega

theorem Sound.put {c : Cache} (hc : Sound c) (now : ℕ) (key : Fingerprint)
    (services : List Service) (generation : ℕ) :
    Sound (c.put now key services generation).2 := by
  have hcleared := (hc.sweep now).makeRoom key
  rcases c.put_cases now key services generation with
    ⟨-, heq⟩ | ⟨haccepts, -, heq⟩ | ⟨-, -, heq⟩
  · rw [heq]
    exact hc
  · rw [heq]
    refine hcleared.write ?_ _ _
    have hcapacity : ((c.sweep now).2.makeRoom key).capacity = c.capacity := by
      rw [makeRoom_eq]
      rfl
    rw [hcapacity]
    exact (hc.sweep now).length_dropIf_makeRoom_lt (pos_of_accepts haccepts) key
  · rw [heq]
    exact hcleared

theorem makeRoom_of_lt {c : Cache} (h : c.size < c.capacity) (key : Fingerprint) :
    c.makeRoom key = c := by
  rw [makeRoom, if_neg (by simp [h])]

/-- A write under a new fingerprint for which there is room evicts nothing. -/
theorem Sound.put_entries {c : Cache} (hc : Sound c) {now : ℕ} {key : Fingerprint}
    {services : List Service} (hservices : services ≠ []) (hnew : ∀ p ∈ c.entries, p.1 ≠ key)
    (hroom : c.entries.countP (isLive now) < c.capacity) (hfits : now + c.ttl < instantLimit) :
    (c.put now key services c.generation).2.entries =
      (key, ⟨services, now + c.ttl, c.generation⟩) :: c.entries.filter (isLive now) := by
  have haccepts : c.accepts services c.generation = true := by
    simp [accepts, hservices, Nat.ne_of_gt (Nat.zero_lt_of_lt hroom)]
  have hsize : (c.sweep now).2.size < (c.sweep now).2.capacity := by
    rw [size, hc.sweep_entries, ← List.countP_eq_length_filter]
    exact hroom
  have hkept : (c.sweep now).2.entries.dropIf key (fun _ => true) =
      c.entries.filter (isLive now) := by
    rw [hc.sweep_entries]
    refine List.filter_eq_self.mpr fun p hp => ?_
    simpa using hnew p (List.mem_filter.mp hp).1
  rw [put_of_accepts haccepts hfits, makeRoom_of_lt hsize]
  exact congrArg (_ :: ·) hkept

/-! ### Histories -/

/-- Every request keeps a cache sound. -/
theorem Sound.perform {c : Cache} (hc : Sound c) (now : ℕ) (request : Request) :
    Sound (c.perform now request) := by
  cases request with
  | put key services generation => exact hc.put now key services generation
  | get key => exact hc.get now key
  | sweep => exact hc.sweep now
  | invalidate => exact Sound.empty { c with generation := c.generation + 1 }

theorem Sound.run {c : Cache} (hc : Sound c) (history : List (ℕ × Request)) :
    Sound (c.run history) := by
  induction history generalizing c with
  | nil => exact hc
  | cons step rest ih => exact ih (hc.perform step.1 step.2)

end Cache
end BannerMatch
