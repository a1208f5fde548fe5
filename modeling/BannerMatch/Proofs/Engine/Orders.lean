import BannerMatch.Proofs.Engine.Matched

/-!
# The order of matches

Matches share the cache and the counters, so an earlier one decides whether a later one is a hit.
Still, in whatever order banners are matched, each gets the same services, the counters end up the
same, and so does what is cached (`sameOutcome_run`), provided that nothing expires meanwhile or is
evicted, and that the texts have different fingerprints. A batch gives each banner the same
services as well, whatever turns its tasks take, if there can be the permits for it.
-/

namespace BannerMatch

open Cache

namespace Engine

variable {e : Engine} {first last : ℕ} {texts : List String} {banners : List (ℕ × String)}

/-! ### One after the other -/

theorem stems_of_mem_eachSteps {m : MatchStep} (hm : m ∈ e.eachSteps banners) :
    Stems e m.before := by
  induction banners generalizing e with
  | nil => cases hm
  | cons b rest ih =>
    rcases List.mem_cons.mp hm with rfl | hm
    · exact .refl e
    · exact (stems_matchText e b.1 b.2).trans (ih hm)

theorem map_text_eachSteps (e : Engine) (banners : List (ℕ × String)) :
    (e.eachSteps banners).map MatchStep.text = banners.map Prod.snd := by
  induction banners generalizing e with
  | nil => rfl
  | cons b rest ih => exact congrArg (b.2 :: ·) (ih _)

/-- The counters count the matches. -/
theorem counted_matchEach (e : Engine) (hkeep : ∀ b ∈ banners, e.CanKeep b.1) :
    Counted e.counters (e.eachSteps banners) 0 (e.matchEach banners).2.counters := by
  induction banners generalizing e with
  | nil => exact counted_nil _
  | cons b rest ih =>
    obtain ⟨hfirst, hrest⟩ := List.forall_mem_cons.mp hkeep
    obtain ⟨broken, hcounted, hnone⟩ := e.exists_counted_matchText b.1 b.2
    obtain rfl := hnone hfirst
    exact hcounted.trans (ih _ fun b' hb' =>
      ((stems_matchText e b.1 b.2).canKeep_iff b'.1).mpr (hrest b' hb'))

theorem countP_isLookUp_eachSteps (e : Engine) (banners : List (ℕ × String)) :
    (e.eachSteps banners).countP MatchStep.isLookUp =
      (e.eachSteps banners).countP fun m => e.config.cacheEnabled && !m.text.isEmpty := by
  refine List.countP_congr fun m hm => ?_
  rw [MatchStep.isLookUp, (stems_of_mem_eachSteps hm).config]

/-- The same rules are tried on every text. -/
theorem evaluationsOf_eachSteps (e : Engine) (banners : List (ℕ × String)) :
    evaluationsOf (e.eachSteps banners) =
      (e.eachSteps banners).countP MatchStep.isAnalyzed * e.registry.stats.active := by
  rw [evaluationsOf, List.sum_eq_card_nsmul _ e.registry.stats.active fun n hn => ?_,
    List.length_map, ← List.countP_eq_length_filter, smul_eq_mul]
  obtain ⟨m, hm, rfl⟩ := List.mem_map.mp hn
  have hrules := (stems_of_mem_eachSteps (List.mem_filter.mp hm).1).rules
  show (m.before.registry.rules.filter _).length = (e.registry.rules.filter _).length
  rw [hrules]

/-- **The counters follow from the misses**: what else there is to count depends on the texts
alone. -/
theorem counters_matchEach_perm {banners others : List (ℕ × String)}
    (hkeep : ∀ b ∈ banners ++ others, e.CanKeep b.1)
    (hperm : (banners.map Prod.snd).Perm (others.map Prod.snd))
    (hmisses : (e.eachSteps banners).countP MatchStep.isMiss =
      (e.eachSteps others).countP MatchStep.isMiss) :
    (e.matchEach banners).2.counters = (e.matchEach others).2.counters := by
  rw [← map_text_eachSteps e banners, ← map_text_eachSteps e others] at hperm
  have hlength : (e.eachSteps banners).length = (e.eachSteps others).length := by
    simpa using hperm.length_eq
  have hcount : ∀ f : String → Bool, (e.eachSteps banners).countP (fun m => f m.text) =
      (e.eachSteps others).countP fun m => f m.text := by
    intro f
    have htexts := hperm.countP_eq f
    rwa [List.countP_map, List.countP_map] at htexts
  have hhits : (e.eachSteps banners).countP MatchStep.isHit =
      (e.eachSteps others).countP MatchStep.isHit := by
    have hone := countP_isHit_add_countP_isMiss (e.eachSteps banners)
    have hother := countP_isHit_add_countP_isMiss (e.eachSteps others)
    rw [countP_isLookUp_eachSteps] at hone hother
    rw [hcount fun text => e.config.cacheEnabled && !text.isEmpty] at hone
    omega
  have hanalyzed : (e.eachSteps banners).countP MatchStep.isAnalyzed =
      (e.eachSteps others).countP MatchStep.isAnalyzed := by
    have hone := countP_isHit_add_countP_isAnalyzed (e.eachSteps banners)
    have hother := countP_isHit_add_countP_isAnalyzed (e.eachSteps others)
    rw [hcount fun text => !text.isEmpty] at hone
    omega
  obtain ⟨hkeep, hkeep'⟩ := List.forall_mem_append.mp hkeep
  refine (counted_matchEach e hkeep).eq_of_counts (counted_matchEach e hkeep') hlength hhits
    hmisses ?_
  rw [evaluationsOf_eachSteps, evaluationsOf_eachSteps, hanalyzed]

/-! ### Histories -/

/-- Matches of banners, one after the other. -/
def oneByOne (banners : List (Moment × String)) : List (Moment × Operation) :=
  banners.map fun b => (b.1, .matchBanner b.2)

/-- The banners with their instants. -/
def timed (banners : List (Moment × String)) : List (ℕ × String) :=
  banners.map fun b => (b.1.instant, b.2)

theorem map_snd_timed (banners : List (Moment × String)) :
    (timed banners).map Prod.snd = banners.map Prod.snd := by
  rw [timed, List.map_map]
  rfl

theorem run_oneByOne (e : Engine) (banners : List (Moment × String)) :
    e.run (oneByOne banners) =
      ((e.matchEach (timed banners)).1.map (.ofOutcome .services),
        (e.matchEach (timed banners)).2) := by
  induction banners generalizing e with
  | nil => rfl
  | cons b rest ih =>
    have hrest := ih (e.matchBanner b.1.instant b.2).2
    rw [oneByOne, List.map_cons, run]
    exact congrArg (fun r : List Answer × Engine => (_ :: r.1, r.2)) hrest

/-- Banners that are matched one after the other, in one order and in another: each gets what it
gets alone, at any instant, and the engine has counted and cached the same afterwards. A batch gives
each banner what it gets alone as well, whatever turns its tasks take; if they take them in order,
it leaves the engine as the matches one after the other do. -/
structure SameOutcome (e : Engine) (found : String → List Service)
    (banners others : List (Moment × String)) : Prop where
  alone : ∀ now, e.CanKeep now → ∀ b ∈ banners, (e.matchBanner now b.2).1 = .ok (found b.2)
  one : (e.run (oneByOne banners)).1 = banners.map fun b => .services (found b.2)
  other : (e.run (oneByOne others)).1 = others.map fun b => .services (found b.2)
  counters : (e.run (oneByOne banners)).2.counters = (e.run (oneByOne others)).2.counters
  cached : ((e.run (oneByOne banners)).2.registry.cache.entries.map content).Perm
    ((e.run (oneByOne others)).2.registry.cache.entries.map content)
  batch : e.config.permits ≤ maxPermits → ∀ now schedule,
    (∀ t ∈ now :: schedule.map Turn.instant, e.CanKeep t) →
      (e.matchBatch now (banners.map Prod.snd) schedule).1 =
        .ok (.ok (banners.map fun b => found b.2))
  inOrder : e.config.permits ≤ maxPermits → ∀ now,
    (e.matchBatch now (banners.map Prod.snd)
      (Engine.inOrder 0 (banners.map fun b => b.1.instant))).2 = (e.run (oneByOne banners)).2

/-- With the cache disabled there are no misses, and nothing is cached. -/
theorem matchEach_disabled {ttl : ℕ} (hlimited : Limited ttl e)
    (hoff : e.config.cacheEnabled = false) (banners : List (ℕ × String)) :
    (e.eachSteps banners).countP MatchStep.isMiss = 0 ∧
      (e.matchEach banners).2.registry.cache.entries = [] := by
  refine ⟨List.countP_eq_zero.mpr fun m hm => ?_, ?_⟩
  · rw [MatchStep.isMiss, MatchStep.isLookUp, (stems_of_mem_eachSteps hm).config, hoff]
    exact Bool.false_ne_true
  · have hafter : Limited ttl (e.matchEach banners).2 := by
      clear hoff
      induction banners generalizing e with
      | nil => exact hlimited
      | cons b rest ih =>
        exact ih ((invariant_limited ttl).search.matchText trivial hlimited b.1)
    exact hafter.disabled ((stems_matchEach e banners).config ▸ hoff)

/-- The misses and what is cached depend on the texts alone. -/
theorem matchEach_perm {banners others : List (ℕ × String)}
    (hlimited : Limited e.registry.cache.ttl e)
    (hperm : (banners.map Prod.snd).Perm (others.map Prod.snd))
    (hdiff : FingerprintsDiffer (banners.map Prod.snd))
    (hcalm : e.config.cacheEnabled = true →
      Undisturbed e first last (banners.map Prod.snd))
    (hinside : ∀ b ∈ banners ++ others, first ≤ b.1 ∧ b.1 ≤ last) :
    (e.eachSteps banners).countP MatchStep.isMiss =
        (e.eachSteps others).countP MatchStep.isMiss ∧
      ((e.matchEach banners).2.registry.cache.entries.map content).Perm
        ((e.matchEach others).2.registry.cache.entries.map content) := by
  cases hon : e.config.cacheEnabled with
  | false =>
    obtain ⟨hnone, hempty⟩ := matchEach_disabled hlimited hon banners
    obtain ⟨hnone', hempty'⟩ := matchEach_disabled hlimited hon others
    rw [hnone, hnone', hempty, hempty']
    exact ⟨rfl, .nil⟩
  | true =>
    have hfollowed : Followed e first last (banners.map Prod.snd) :=
      { limited := hlimited
        enabled := hon
        distinct := hdiff
        calm := hcalm hon }
    obtain ⟨hinside, hinside'⟩ := List.forall_mem_append.mp hinside
    obtain ⟨hmisses, hcached⟩ := hfollowed.matchEach banners (.refl _) hinside
    obtain ⟨hmisses', hcached'⟩ := hfollowed.matchEach others hperm.symm hinside'
    exact ⟨hmisses.trans hmisses'.symm, hcached.trans hcached'.symm⟩

/-- Banners in two orders, matched by an engine that has cached what its rules find. -/
theorem Faithful.sameOutcome (h : Faithful texts e) (hdiff : FingerprintsDiffer texts)
    (hlimited : Limited e.registry.cache.ttl e) {banners others : List (Moment × String)}
    (hin : ∀ b ∈ banners, b.2 ∈ texts) (perm : (banners.map Prod.snd).Perm (others.map Prod.snd))
    (calm : e.config.cacheEnabled = true → Undisturbed e first last (banners.map Prod.snd))
    (inside : ∀ b ∈ banners ++ others, first ≤ b.1.instant ∧ b.1.instant ≤ last) :
    SameOutcome e (fun text => (e.analysis text).services) banners others := by
  have hin' : ∀ b ∈ others, b.2 ∈ texts := fun b hb => by
    obtain ⟨b', hb', heq⟩ := List.mem_map.mp (perm.mem_iff.mpr (List.mem_map_of_mem hb))
    exact heq ▸ hin b' hb'
  have hinside : ∀ b ∈ timed banners ++ timed others, first ≤ b.1 ∧ b.1 ≤ last := by
    rw [timed, timed, ← List.map_append]
    exact List.forall_mem_map.mpr inside
  have hkeep : ∀ b ∈ timed banners ++ timed others, e.CanKeep b.1 := by
    intro b hb hon
    have hclock := (calm hon).clock
    have hlast := (hinside b hb).2
    omega
  have hperm : ((timed banners).map Prod.snd).Perm ((timed others).map Prod.snd) := by
    rwa [map_snd_timed, map_snd_timed]
  have hdiff' : FingerprintsDiffer ((timed banners).map Prod.snd) := by
    rw [map_snd_timed]
    have hmem := List.forall_mem_map.mpr hin
    exact fun s hs t ht => hdiff s (hmem s hs) t (hmem t ht)
  obtain ⟨hmisses, hcached⟩ :=
    matchEach_perm hlimited hperm hdiff' (map_snd_timed banners ▸ calm) hinside
  obtain ⟨hkeepOne, hkeepOther⟩ := List.forall_mem_append.mp hkeep
  have hone : (e.matchEach (timed banners)).1 = _ :=
    h.matchEach hdiff (List.forall_mem_map.mpr hin) hkeepOne
  have hother : (e.matchEach (timed others)).1 = _ :=
    h.matchEach hdiff (List.forall_mem_map.mpr hin') hkeepOther
  exact
    { alone := fun now hnow b hb => h.matchText_eq hdiff (hin b hb) hnow
      one := by rw [run_oneByOne, hone, timed, List.map_map, List.map_map]; rfl
      other := by rw [run_oneByOne, hother, timed, List.map_map, List.map_map]; rfl
      counters := by
        rw [run_oneByOne, run_oneByOne]
        exact counters_matchEach_perm hkeep hperm hmisses
      cached := by rw [run_oneByOne, run_oneByOne]; exact hcached
      batch := fun hpermits now schedule hinstants => by
        rw [h.matchBatch hdiff (List.forall_mem_map.mpr hin) hpermits hinstants, List.map_map]
        simp only [Function.comp_def, uncached_eq_analysis, searchedText_none]
      inOrder := fun hpermits now => by
        have hturns := matchBatch_inOrder hpermits (timed banners) now
        rw [map_snd_timed, timed, List.map_map] at hturns
        rw [run_oneByOne]
        exact congrArg Prod.snd hturns }

/-- Two banners are cached. The first of them expires at `101`. -/
def agingHistory : List (Moment × Operation) :=
  [(⟨0, "2024-01-01 00:00:00"⟩, .load [{ id := "ssh", service := "ssh", pattern := "SSH-" }]),
    (⟨1, "2024-01-01 00:00:00"⟩, .matchBanner "SSH-1.5"),
    (⟨50, "2024-01-01 00:00:00"⟩, .matchBanner "SSH-2.0")]

/-- A cached banner, a new one and one without a result, both of them twice, and an empty one. -/
def mixedBanners : List (Moment × String) :=
  [(⟨110, "2024-01-01 00:00:00"⟩, "SSH-2.0"), (⟨111, "2024-01-01 00:00:00"⟩, "SSH-1.99"),
    (⟨112, "2024-01-01 00:00:00"⟩, "220 ftp"), (⟨113, "2024-01-01 00:00:00"⟩, ""),
    (⟨114, "2024-01-01 00:00:00"⟩, "220 ftp"), (⟨115, "2024-01-01 00:00:00"⟩, "SSH-1.99")]

/-- The same banners in another order, and later. -/
def reorderedBanners : List (Moment × String) :=
  [(⟨130, "2024-01-01 00:00:00"⟩, ""), (⟨131, "2024-01-01 00:00:00"⟩, "220 ftp"),
    (⟨132, "2024-01-01 00:00:00"⟩, "SSH-1.99"), (⟨133, "2024-01-01 00:00:00"⟩, "SSH-1.99"),
    (⟨134, "2024-01-01 00:00:00"⟩, "SSH-2.0"), (⟨140, "2024-01-01 00:00:00"⟩, "220 ftp")]

/-- In either order there are two hits, and the banner without a result is missed twice. -/
example : (((start { cacheSize := 2 } 100).run agingHistory).2.run
    (oneByOne reorderedBanners)).2.counters = ⟨8, 2, 5, 5⟩ := by decide +kernel

end Engine
end BannerMatch
