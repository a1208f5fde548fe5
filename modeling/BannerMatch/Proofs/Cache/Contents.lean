import BannerMatch.Proofs.Cache.Log

/-!
# The exact contents of a cache

Under a clock that does not go back, and with accepted writes at instants of their own, a cache
gives out exactly the last writes under the `capacity` fingerprints that were written most recently,
each for the time to live. `get_carryOut_eq_some_iff` says so against the log of the history.

A write breaks down if what it is to write expires beyond the range of the clock, and then a history
breaks off (`Cache.carryOut`). A history without such a write is carried out to its end.

The invariant is `Reflects c now l`. The entries are a part of the last writes under those
fingerprints, in the same order, and the missing ones have expired. Hence

* after a sweep the entries are a front part of the last writes (`Reflects.exists_sweep_eq_take`);
* the entry that eviction takes away is the oldest of `capacity` ones, and no other is lost
  (`Reflects.mem_makeRoom`).
-/

namespace BannerMatch
namespace Cache

/-- The entry of an accepted write. -/
def entryOf (ttl generation : ℕ) (w : Write) : Fingerprint × Entry :=
  (w.key, ⟨w.services, w.instant + ttl, generation⟩)

/-- At the instant `now` the cache holds what its log says, some expired entries apart. -/
structure Reflects (c : Cache) (now : ℕ) (l : Log) : Prop where
  falling : l.writes.Pairwise fun v w => w.instant < v.instant
  past : ∀ w ∈ l.writes, w.instant ≤ now
  sublist : c.entries.Sublist
    (((latest l.writes).take c.capacity).map (entryOf c.ttl c.generation))
  complete : ∀ w ∈ (latest l.writes).take c.capacity, now < w.instant + c.ttl →
    entryOf c.ttl c.generation w ∈ c.entries

variable {c : Cache} {now later : ℕ} {l : Log}

/-- The entries of the last writes, the most recent first. -/
abbrev latestEntries (c : Cache) (l : Log) : Entries :=
  (latest l.writes).map (entryOf c.ttl c.generation)

theorem Reflects.new (ttl capacity now : ℕ) :
    Reflects { ttl := ttl, capacity := capacity } now {} where
  falling := List.Pairwise.nil
  past := fun _ hw => absurd hw List.not_mem_nil
  sublist := List.nil_sublist _
  complete := fun w hw => by simp [latest] at hw

theorem Reflects.falling_entries (h : Reflects c now l) :
    (latestEntries c l).Pairwise fun p q => q.2.expiry < p.2.expiry := by
  refine List.pairwise_map.2 ((h.falling.sublist (latest_sublist _)).imp fun hlt => ?_)
  exact Nat.add_lt_add_right hlt _

/-- The clock goes on and entries are lost, none of which could still be given out. -/
theorem Reflects.mono (h : Reflects c now l) (hle : now ≤ later) {es : Entries}
    {rs : List Record} (hsub : es.Sublist c.entries)
    (hkept : ∀ p ∈ c.entries, p.2.generation = c.generation → later < p.2.expiry → p ∈ es) :
    Reflects { c with entries := es, records := rs } later l where
  falling := h.falling
  past := fun w hw => (h.past w hw).trans hle
  sublist := hsub.trans h.sublist
  complete := fun w hw hlive => hkept _ (h.complete w hw (lt_of_le_of_lt hle hlive)) rfl hlive

theorem Reflects.get (h : Reflects c now l) (hle : now ≤ later) (key : Fingerprint) :
    Reflects (c.get later key).2 later l := by
  rw [get_eq_of_entries]
  refine h.mono hle (get_entries_sublist c later key) fun p hp hgen hlive => ?_
  exact mem_get_entries hp (by simp [isFresh, hgen, hlive])

theorem Reflects.sweep (h : Reflects c now l) (hc : Sound c) (hle : now ≤ later) :
    Reflects (c.sweep later).2 later l := by
  have hentries := hc.sweep_entries later
  refine h.mono hle (sweep_entries_sublist c later) fun p hp _ hlive => ?_
  show p ∈ (c.sweep later).2.entries
  rw [hentries]
  exact List.mem_filter.2 ⟨hp, isLive_iff.2 hlive⟩

/-! ### A write -/

/-- After a sweep the entries are the first of the last writes, since those that were written
before them expire before them. -/
theorem Reflects.exists_sweep_eq_take (h : Reflects c now l) (hc : Sound c) (hle : now ≤ later) :
    ∃ n, (c.sweep later).2.entries = (latestEntries c l).take n := by
  have hfall := h.falling_entries
  have hkeys : ((latestEntries c l).map Prod.fst).Nodup := by
    rw [List.map_map]
    exact nodup_keys_latest l.writes
  have hsub := h.sublist
  rw [List.map_take] at hsub
  rw [hc.sweep_entries, filter_eq_of_sublist hsub
    ((List.Nodup.of_map _ hkeys).sublist (List.take_sublist _ _))]
  · obtain ⟨n, hn⟩ := exists_filter_eq_take (p := isLive later)
      (l := (latestEntries c l).take c.capacity)
      ((hfall.sublist (List.take_sublist _ _)).imp fun hlt hp => by
        rw [isLive_iff] at hp ⊢; omega)
    exact ⟨min n c.capacity, by rw [hn, List.take_take]⟩
  · rw [← List.map_take]
    intro p hp hlive
    obtain ⟨w, hw, rfl⟩ := List.mem_map.1 hp
    exact h.complete w hw (lt_of_le_of_lt hle (isLive_iff.1 hlive))

/-- What is still to be given out under another fingerprint is there after room was made: among
the first `capacity - 1` of the other fingerprints nothing is evicted. -/
theorem Reflects.mem_makeRoom (h : Reflects c now l) (hc : Sound c) {n : ℕ}
    (hn : c.entries = (latestEntries c l).take n) {key : Fingerprint} {w : Write}
    (hw : w ∈ ((latest l.writes).filter fun v => v.key != key).take (c.capacity - 1))
    (hpos : 0 < c.capacity) (hlive : now < w.instant + c.ttl) :
    entryOf c.ttl c.generation w ∈ (c.makeRoom key).entries := by
  have hone : (latest l.writes).Pairwise fun v v' =>
      (v.key != key) = false → (v'.key != key) = true :=
    (List.pairwise_map.1 (nodup_keys_latest l.writes)).imp fun {v v'} hne hv => by
      have hkey : v.key = key := by simpa using hv
      simpa [← hkey] using fun he : v'.key = v.key => hne he.symm
  have hin : entryOf c.ttl c.generation w ∈ c.entries := by
    have hmem := take_filter_subset hone _ hw
    rw [Nat.sub_add_cancel hpos] at hmem
    exact h.complete w hmem hlive
  rw [makeRoom_entries]
  split
  · rename_i hfull
    rw [Bool.and_eq_true, decide_eq_true_eq, Bool.not_eq_true'] at hfull
    obtain ⟨hsize, hhas⟩ := hfull
    -- the cache is full and holds nothing under the fingerprint: the entries are the last writes
    -- under `capacity` other fingerprints
    have hes : c.entries.Pairwise fun p q => q.2.expiry < p.2.expiry :=
      hn ▸ h.falling_entries.sublist (List.take_sublist _ _)
    have hlen : c.capacity ≤ n := by
      have : c.entries.length ≤ n := hn ▸ List.length_take_le _ _
      exact hsize.trans this
    have hother : ∀ v ∈ (latest l.writes).take (c.capacity - 1), (v.key != key) = true := by
      intro v hv
      have hve : entryOf c.ttl c.generation v ∈ c.entries := by
        rw [hn, ← List.map_take]
        exact List.mem_map_of_mem (List.take_subset_take_left _ (by omega) hv)
      by_contra hkey
      have hkey : v.key = key := by simpa using hkey
      have : c.entries.has key = true := has_eq_true_iff.2 ⟨_, hve, hkey⟩
      rw [hhas] at this
      cases this
    rw [evict_entries hpos hc.covered hc.inOrder hes, hn, List.take_take, ← List.map_take,
      Nat.min_eq_left (by omega)]
    rw [take_filter_of_forall hother] at hw
    exact List.mem_map_of_mem hw
  · exact hin

theorem dropIf_map_entryOf (ttl generation : ℕ) (ws : List Write) (key : Fingerprint) :
    Entries.dropIf (ws.map (entryOf ttl generation)) key (fun _ => true) =
      (ws.filter fun v => v.key != key).map (entryOf ttl generation) := by
  rw [Entries.dropIf, List.filter_map]
  refine congrArg _ (List.filter_congr fun v _ => ?_)
  simp [entryOf, bne]

/-- Room is made from the end: a front part of the last writes stays one. -/
theorem Reflects.exists_makeRoom_eq_take (h : Reflects c now l) (hc : Sound c) {n : ℕ}
    (hn : c.entries = (latestEntries c l).take n) (hpos : 0 < c.capacity) (key : Fingerprint) :
    ∃ m, (c.makeRoom key).entries = (latestEntries c l).take m := by
  rw [makeRoom_entries]
  split
  · have hes : c.entries.Pairwise fun p q => q.2.expiry < p.2.expiry :=
      hn ▸ h.falling_entries.sublist (List.take_sublist _ _)
    exact ⟨_, by rw [evict_entries hpos hc.covered hc.inOrder hes, hn, List.take_take]⟩
  · exact ⟨n, hn⟩

/-- An accepted write, at an instant after all others, of a cache that was just swept. -/
theorem Reflects.write (h : Reflects c now l) (hc : Sound c) {n : ℕ}
    (hn : c.entries = (latestEntries c l).take n) (hpos : 0 < c.capacity)
    (hnew : ∀ w ∈ l.writes, w.instant < now) (key : Fingerprint) (services : List Service) :
    Reflects ((c.makeRoom key).write (now + c.ttl) key services) now
      { l with writes := ⟨now, key, services⟩ :: l.writes } := by
  obtain ⟨m, hm⟩ := h.exists_makeRoom_eq_take hc hn hpos key
  have hroom := hc.length_dropIf_makeRoom_lt hpos key
  have hrest : (c.makeRoom key).entries.dropIf key (fun _ => true) =
      (((latest l.writes).take m).filter fun v => v.key != key).map
        (entryOf c.ttl c.generation) := by
    rw [hm, ← List.map_take, dropIf_map_entryOf]
  have hlatest : (latest (⟨now, key, services⟩ :: l.writes)).take c.capacity =
      ⟨now, key, services⟩ ::
        ((latest l.writes).filter fun v => v.key != key).take (c.capacity - 1) := by
    rw [latest, ← Nat.sub_add_cancel hpos, List.take_succ_cons, Nat.add_sub_cancel]
  have heq : (c.makeRoom key).write (now + c.ttl) key services =
      { c with
        entries := entryOf c.ttl c.generation ⟨now, key, services⟩ ::
          (c.makeRoom key).entries.dropIf key fun _ => true
        records := schedule ⟨now + c.ttl, key⟩ (c.makeRoom key).records } := by
    rw [makeRoom_eq]
    rfl
  rw [heq]
  refine ⟨List.pairwise_cons.2 ⟨hnew, h.falling⟩, ?_, ?_, ?_⟩
  · exact List.forall_mem_cons.2 ⟨le_rfl, h.past⟩
  · -- both sides are front parts of the same writes, and the entries are fewer
    rw [hlatest, List.map_cons]
    refine List.Sublist.cons_cons _ ?_
    rw [hrest] at hroom ⊢
    rw [List.length_map] at hroom
    refine List.Sublist.map _ (List.IsPrefix.sublist (List.prefix_take_iff.2 ⟨?_, ?_⟩))
    · exact (List.take_prefix m (latest l.writes)).filter _
    · show _ ≤ c.capacity - 1
      omega
  · rw [hlatest]
    intro w hw hlive
    rcases List.mem_cons.1 hw with rfl | hw
    · exact List.mem_cons_self
    · have hmem := h.mem_makeRoom hc hn hw hpos hlive
      have hkey : w.key ≠ key := by
        simpa using (List.mem_filter.1 (List.mem_of_mem_take hw)).2
      exact List.mem_cons_of_mem _ (mem_dropIf.2 ⟨hmem, fun hdrop => hkey hdrop.1⟩)

theorem accepts_iff {services : List Service} {generation : ℕ}
    (hgen : c.generation = l.generation) :
    c.accepts services generation = true ↔
      services ≠ [] ∧ 0 < c.capacity ∧ generation = l.generation := by
  simp only [accepts, hgen, Bool.and_eq_true, bne_iff_ne, beq_iff_eq, Nat.pos_iff_ne_zero,
    and_assoc, Bool.not_eq_true', List.isEmpty_eq_false_iff, ne_eq]

theorem Reflects.put (h : Reflects c now l) (hc : Sound c) (hgen : c.generation = l.generation)
    (hle : now ≤ later) {key : Fingerprint} {services : List Service} {generation : ℕ}
    (hdone : (c.put later key services generation).1 = .ok ())
    (hnodup : ((l.note c.capacity later (.put key services generation)).writes.map
      Write.instant).Nodup) :
    Reflects (c.put later key services generation).2 later
      (l.note c.capacity later (.put key services generation)) := by
  rcases c.put_cases later key services generation with
    ⟨hacc, hput⟩ | ⟨hacc, -, hput⟩ | ⟨-, -, hput⟩
  · rw [hput, Log.note, if_neg ((accepts_iff hgen).not.1 hacc)]
    exact h.mono hle (List.Sublist.refl _) fun p hp _ _ => hp
  · rw [Log.note, if_pos ((accepts_iff hgen).1 hacc)] at hnodup ⊢
    obtain ⟨n, hn⟩ := h.exists_sweep_eq_take hc hle
    rw [hput]
    refine (h.sweep hc hle).write (hc.sweep later) hn (pos_of_accepts hacc) (fun w hw => ?_) key
      services
    have hne : later ≠ w.instant := fun he =>
      (List.nodup_cons.1 hnodup).1 (List.mem_map.2 ⟨w, hw, he.symm⟩)
    have := h.past w hw
    omega
  · rw [hput] at hdone
    cases hdone

/-! ### Histories -/

/-- A cache against the log of its history. Until the instants of the accepted writes are known to
differ, nothing is said about the entries; an invalidation starts afresh. -/
structure Follows (c : Cache) (now : ℕ) (l : Log) : Prop where
  sound : Sound c
  generation : c.generation = l.generation
  reflects : (l.writes.map Write.instant).Nodup → Reflects c now l

/-- No request changes how long entries live, or how many there can be. -/
theorem perform_limits (c : Cache) (now : ℕ) (request : Request) :
    (c.perform now request).ttl = c.ttl ∧ (c.perform now request).capacity = c.capacity := by
  cases request with
  | put key services generation =>
    rw [perform, put_eq]
    exact ⟨rfl, rfl⟩
  | get key =>
    rw [perform, get_eq_of_entries]
    exact ⟨rfl, rfl⟩
  | sweep => exact ⟨rfl, rfl⟩
  | invalidate => exact ⟨rfl, rfl⟩

theorem run_limits (c : Cache) (history : List (ℕ × Request)) :
    (c.run history).ttl = c.ttl ∧ (c.run history).capacity = c.capacity := by
  induction history generalizing c with
  | nil => exact ⟨rfl, rfl⟩
  | cons step rest ih =>
    obtain ⟨httl, hcapacity⟩ := perform_limits c step.1 step.2
    rw [← httl, ← hcapacity]
    exact ih (c.perform step.1 step.2)

theorem perform_generation (hgen : c.generation = l.generation) (now : ℕ) (request : Request) :
    (c.perform now request).generation = (l.note c.capacity now request).generation := by
  cases request with
  | put key services generation =>
    -- a write changes neither generation, whether it is accepted or not
    rw [perform, put_eq, Log.note]
    split
    · exact hgen
    · exact hgen
  | get key => rw [perform, get_eq_of_entries]; exact hgen
  | sweep => exact hgen
  | invalidate => exact congrArg (· + 1) hgen

/-- What comes of a request: only writes can break down. -/
def outcome (c : Cache) (now : ℕ) : Request → Except Breakdown Unit
  | .put key services generation => (c.put now key services generation).1
  | _ => .ok ()

/-- The cache after requests, each at its instant; the first one that breaks down breaks them
off. -/
def carryOut (c : Cache) : List (ℕ × Request) → Except Breakdown Cache
  | [] => .ok c
  | (now, request) :: rest =>
      match c.outcome now request with
      | .ok () => (c.perform now request).carryOut rest
      | .error cause => .error cause

/-- A history that is carried out to its end. -/
theorem carryOut_cons_eq_ok_iff {step : ℕ × Request} {rest : List (ℕ × Request)} {after : Cache} :
    c.carryOut (step :: rest) = .ok after ↔
      c.outcome step.1 step.2 = .ok () ∧ (c.perform step.1 step.2).carryOut rest = .ok after := by
  rw [carryOut]
  cases c.outcome step.1 step.2 with
  | ok _ => simp
  | error cause => simp

/-- One request keeps a cache in step with its log. -/
theorem Follows.perform (h : Follows c now l) (hle : now ≤ later) {request : Request}
    (hdone : c.outcome later request = .ok ()) :
    Follows (c.perform later request) later (l.note c.capacity later request) where
  sound := h.sound.perform later request
  generation := perform_generation h.generation later request
  reflects := by
    intro hnodup
    cases request with
    | put key services generation =>
      -- the writes before this one have instants of their own as well
      have hold : (l.writes.map Write.instant).Nodup := by
        rw [Log.note] at hnodup
        split at hnodup
        · exact (List.nodup_cons.1 hnodup).2
        · exact hnodup
      exact (h.reflects hold).put h.sound h.generation hle hdone hnodup
    | get key => exact (h.reflects hnodup).get hle key
    | sweep => exact (h.reflects hnodup).sweep h.sound hle
    | invalidate =>
      refine ⟨List.Pairwise.nil, fun _ hw => absurd hw List.not_mem_nil, List.nil_sublist _, ?_⟩
      intro w hw
      simp [Log.note, latest] at hw

theorem Follows.mono (h : Follows c now l) (hle : now ≤ later) : Follows c later l where
  sound := h.sound
  generation := h.generation
  reflects := fun hnodup =>
    (h.reflects hnodup).mono hle (List.Sublist.refl _) fun _ hp _ _ => hp

/-- A history under a clock that does not go back keeps a cache in step with its log, if it is
carried out to its end. -/
theorem Follows.carryOut (h : Follows c now l) (history : List (ℕ × Request))
    (hord : (now :: (history.map Prod.fst ++ [later])).Pairwise (· ≤ ·)) {after : Cache}
    (hdone : c.carryOut history = .ok after) :
    Follows after later (l.noteAll c.capacity history) ∧ after.ttl = c.ttl ∧
      after.capacity = c.capacity := by
  induction history generalizing c now l with
  | nil =>
    cases hdone
    exact ⟨h.mono ((List.pairwise_cons.1 hord).1 later List.mem_cons_self), rfl, rfl⟩
  | cons step rest ih =>
    obtain ⟨hfirst, hrest⟩ := List.pairwise_cons.1 hord
    obtain ⟨houtcome, hdone⟩ := carryOut_cons_eq_ok_iff.mp hdone
    obtain ⟨httl, hcapacity⟩ := perform_limits c step.1 step.2
    have hstep := h.perform (hfirst step.1 List.mem_cons_self) houtcome
    obtain ⟨hall, hlimits⟩ := ih hstep hrest hdone
    rw [httl, hcapacity] at hlimits
    rw [hcapacity] at hall
    exact ⟨hall, hlimits⟩

/-- A write that is accepted breaks down beyond the range of the clock. -/
theorem put_fst_eq_ok_iff (hgen : c.generation = l.generation) {key : Fingerprint}
    {services : List Service} {generation : ℕ} :
    (c.put now key services generation).1 = .ok () ↔
      (services ≠ [] ∧ 0 < c.capacity ∧ generation = l.generation →
        now + c.ttl < instantLimit) := by
  rw [← accepts_iff hgen]
  rcases c.put_cases now key services generation with
    ⟨hacc, hput⟩ | ⟨-, hfits, hput⟩ | ⟨hacc, hlate, hput⟩
  · simp [hput, hacc]
  · simp [hput, hfits]
  · simp [hput, hacc, Nat.not_lt.mpr hlate]

/-- **A history is carried out to its end** exactly if all that is written in it expires within the
range of the clock. -/
theorem exists_carryOut_eq_ok_iff (hgen : c.generation = l.generation)
    (history : List (ℕ × Request)) :
    (∃ after, c.carryOut history = .ok after) ↔
      ∀ instant ∈ l.acceptedAt c.capacity history, instant + c.ttl < instantLimit := by
  induction history generalizing c l with
  | nil => simp [carryOut, Log.acceptedAt]
  | cons step rest ih =>
    obtain ⟨now, request⟩ := step
    obtain ⟨httl, hcapacity⟩ := perform_limits c now request
    have hrest := ih (perform_generation hgen now request)
    rw [httl, hcapacity] at hrest
    simp only [carryOut_cons_eq_ok_iff, exists_and_left, hrest]
    cases request with
    | put key services generation =>
      simp only [outcome, put_fst_eq_ok_iff hgen, Log.acceptedAt]
      split
      · rename_i hacc
        simp [hacc]
      · rename_i hacc
        simp [hacc]
    | get key => simp [outcome, Log.acceptedAt]
    | sweep => simp [outcome, Log.acceptedAt]
    | invalidate => simp [outcome, Log.acceptedAt]

/-- A service that a rule with the given identifier has found. -/
def foundBy (ruleId : String) : Service where
  name := "ssh"
  product := "OpenSSH"
  confidence := 90
  ruleId := ruleId
  matchedText := "SSH-2.0"

/-- An invalidation, a late write of the generation before it, an overwritten entry, a look-up in
between, and one entry more than the capacity. -/
def crowdedHistory : List (ℕ × Request) :=
  [(1, .put 7 [foundBy "old"] 0), (2, .invalidate), (2, .put 7 [foundBy "late"] 0),
    (3, .put 1 [foundBy "a"] 1), (4, .put 2 [foundBy "b"] 1), (5, .put 1 [foundBy "c"] 1),
    (5, .get 2), (6, .put 3 [foundBy "d"] 1), (6, .sweep)]

end Cache
end BannerMatch
