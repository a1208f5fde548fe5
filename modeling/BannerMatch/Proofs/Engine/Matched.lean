import BannerMatch.Proofs.Engine.Counting
import BannerMatch.Proofs.Engine.Transparency

/-!
# The cache after matches

What matches do to the cache of an engine, as long as nothing expires meanwhile or is evicted
(`Undisturbed`), and the texts have different fingerprints (`Followed`). The invariant is
`HasMatched e first last texts after`. It describes the cache of the engine that `e` has become by
matches of `texts` in a way in which their order plays no role:

* what was written are the results of the new texts, those in which something is found that the
  cache of `e` does not know (`newTexts`);
* of the entries of `e` those are left that had not expired, and expired ones only as long as
  nothing was written and their own text was not looked up (`outlasts`).

A match of one more text keeps it (`HasMatched.step`), and is a miss unless the text is known by
then (`HasMatched.isCached_iff`). `missesOf` is the number of misses among all matches
(`Followed.matchEach`).
-/

namespace BannerMatch

open Cache

/-- What an entry holds, whenever it expires. -/
def Cache.content (p : Fingerprint × Entry) : Fingerprint × List Service := (p.1, p.2.services)

namespace Engine

/-- Whether a text is found in the cache. -/
def isCached (e : Engine) (now : ℕ) (text : String) : Bool :=
  (e.registry.cache.get now (Fingerprint.ofText text)).1.isSome

/-- Whether something is found in a text that the cache does not know. -/
def isNew (e : Engine) (now : ℕ) (text : String) : Bool :=
  !(e.analysis text).services.isEmpty && !e.isCached now text

/-- The texts whose results are not cached yet, each of them once. -/
def newTexts (e : Engine) (now : ℕ) (texts : List String) : List String :=
  (texts.filter (e.isNew now)).dedup

/-- Between two instants the cache loses nothing that can be given out: the time to live does not
run out, neither for what it holds nor for what is written, which expires within the range of the
clock, and there is room for the results of the texts. -/
structure Undisturbed (e : Engine) (first last : ℕ) (texts : List String) : Prop where
  cached : ∀ p ∈ e.registry.cache.entries, p.2.expiry ≤ first ∨ last < p.2.expiry
  written : last < first + e.registry.cache.ttl
  clock : last + e.registry.cache.ttl < instantLimit
  room : e.registry.cache.entries.countP (isLive first) + (e.newTexts first texts).length ≤
    e.registry.cache.capacity

/-- The number of misses when texts are matched. One in which nothing is found is missed every
time, a new one only the first time. -/
def missesOf (e : Engine) (now : ℕ) (texts : List String) : ℕ :=
  (texts.countP fun text => !text.isEmpty && !e.isCached now text &&
    (e.analysis text).services.isEmpty) + (e.newTexts now texts).length

/-- Whether an entry outlasts matches of texts. One that has expired is gone as soon as its own
text is looked up, or anything is written. -/
def outlasts (e : Engine) (now : ℕ) (texts : List String) (p : Fingerprint × Entry) : Bool :=
  isLive now p || ((e.newTexts now texts).isEmpty &&
    texts.all fun text => text.isEmpty || p.1 != Fingerprint.ofText text)

/-- What is cached for a new text. -/
def resultOf (e : Engine) (text : String) : Fingerprint × List Service :=
  (Fingerprint.ofText text, (e.analysis text).services)

/-- The entries after matches of texts: what was written meanwhile, and what is left of the entries
of `e`. -/
structure Remains (e : Engine) (first last : ℕ) (texts : List String) (written entries : Entries) :
    Prop where
  split : entries = written ++ e.registry.cache.entries.filter (e.outlasts first texts)
  results : written.map content = (e.newTexts first texts).map e.resultOf
  live : ∀ p ∈ written, isLive last p = true

/-- The engine `after` is what the engine `e` has become by matches of texts. -/
structure HasMatched (e : Engine) (first last : ℕ) (texts : List String) (after : Engine) :
    Prop where
  stems : Stems e after
  limited : Limited e.registry.cache.ttl after
  remains : ∃ written, Remains e first last texts written after.registry.cache.entries

/-- What is assumed of the engine whose matches are followed. -/
structure Followed (e : Engine) (first last : ℕ) (texts : List String) : Prop where
  limited : Limited e.registry.cache.ttl e
  enabled : e.config.cacheEnabled = true
  distinct : FingerprintsDiffer texts
  calm : Undisturbed e first last texts

variable {e after : Engine} {first last now : ℕ} {texts done : List String} {text : String}

/-- Between the two instants nothing that the engine has cached expires. -/
theorem Undisturbed.isLive_eq (h : Undisturbed e first last texts) (hle : first ≤ now)
    (hge : now ≤ last) {p : Fingerprint × Entry} (hp : p ∈ e.registry.cache.entries) :
    isLive now p = isLive first p := by
  have := h.cached p hp
  rw [Bool.eq_iff_iff, isLive_iff, isLive_iff]
  omega

/-! ### New texts -/

theorem mem_newTexts : text ∈ e.newTexts now texts ↔ text ∈ texts ∧ e.isNew now text = true := by
  rw [newTexts, List.mem_dedup, List.mem_filter]

theorem isNew_of_isCached (h : e.isCached now text = true) : e.isNew now text = false := by
  rw [isNew, h, Bool.not_true, Bool.and_false]

theorem isNew_of_nil (h : (e.analysis text).services = []) : e.isNew now text = false := by
  rw [isNew, h]
  rfl

theorem newTexts_cons_of_new (hnew : e.isNew now text = true)
    (hfirst : text ∉ e.newTexts now done) :
    e.newTexts now (text :: done) = text :: e.newTexts now done := by
  rw [newTexts, List.mem_dedup] at hfirst
  rw [newTexts, List.filter_cons_of_pos hnew, List.dedup_cons_of_notMem hfirst]
  rfl

theorem newTexts_cons_of_not_new (h : e.isNew now text = false) :
    e.newTexts now (text :: done) = e.newTexts now done := by
  rw [newTexts, List.filter_cons_of_neg (Bool.not_eq_true _ ▸ h)]
  rfl

/-- A text that is cached, or was new before, is not new any more. -/
theorem newTexts_cons_of_known (h : e.isCached now text = true ∨ text ∈ e.newTexts now done) :
    e.newTexts now (text :: done) = e.newTexts now done := by
  rcases h with hcached | hmem
  · exact newTexts_cons_of_not_new (isNew_of_isCached hcached)
  · have hnew := (mem_newTexts.mp hmem).2
    rw [newTexts, List.mem_dedup] at hmem
    rw [newTexts, List.filter_cons_of_pos hnew, List.dedup_cons_of_mem hmem]
    rfl

theorem length_newTexts_le (e : Engine) (now : ℕ) (hsub : ∀ t ∈ done, t ∈ texts) :
    (e.newTexts now done).length ≤ (e.newTexts now texts).length := by
  refine List.Subperm.length_le (List.subperm_of_subset (List.nodup_dedup _) fun t ht => ?_)
  obtain ⟨hmem, hnew⟩ := mem_newTexts.mp ht
  exact mem_newTexts.mpr ⟨hsub t hmem, hnew⟩

/-! ### The number of misses -/

theorem missesOf_cons_of_known (h : e.isCached now text = true ∨ text ∈ e.newTexts now done) :
    e.missesOf now (text :: done) = e.missesOf now done := by
  have hno : (!text.isEmpty && !e.isCached now text && (e.analysis text).services.isEmpty) =
      false := by
    rcases h with hcached | hmem
    · rw [hcached, Bool.not_true, Bool.and_false, Bool.false_and]
    · have hnew := (mem_newTexts.mp hmem).2
      rw [isNew, Bool.and_eq_true, Bool.not_eq_true'] at hnew
      rw [hnew.1, Bool.and_false]
  rw [missesOf, missesOf, newTexts_cons_of_known h, List.countP_cons_of_neg (by simp [hno])]

theorem missesOf_cons_of_nil (hnil : (e.analysis text).services = []) :
    e.missesOf now (text :: done) =
      e.missesOf now done + if !text.isEmpty && !e.isCached now text then 1 else 0 := by
  rw [missesOf, missesOf, newTexts_cons_of_not_new (isNew_of_nil hnil), List.countP_cons, hnil,
    List.isEmpty_nil, Bool.and_true]
  omega

theorem missesOf_cons_of_new (hnew : e.isNew now text = true)
    (hfirst : text ∉ e.newTexts now done) :
    e.missesOf now (text :: done) = e.missesOf now done + 1 := by
  have hfound : (e.analysis text).services.isEmpty = false := by
    rw [isNew, Bool.and_eq_true, Bool.not_eq_true'] at hnew
    exact hnew.1
  rw [missesOf, missesOf, newTexts_cons_of_new hnew hfirst,
    List.countP_cons_of_neg (by simp [hfound]), List.length_cons, Nat.add_assoc]

/-! ### The order plays no role -/

theorem newTexts_perm (h : done.Perm texts) : (e.newTexts now done).Perm (e.newTexts now texts) :=
  (h.filter _).dedup

theorem missesOf_perm (h : done.Perm texts) : e.missesOf now done = e.missesOf now texts := by
  rw [missesOf, missesOf, h.countP_eq, (newTexts_perm h).length_eq]

theorem outlasts_perm (h : done.Perm texts) : e.outlasts now done = e.outlasts now texts := by
  funext p
  rw [outlasts, outlasts, h.all_eq, (newTexts_perm h).isEmpty_eq]

/-! ### One match -/

theorem isCached_iff (h : Sound e.registry.cache) :
    e.isCached now text = true ↔ ∃ p ∈ e.registry.cache.entries,
      p.1 = Fingerprint.ofText text ∧ isLive now p = true := h.isSome_get_iff

theorem cache_keep (hon : e.config.cacheEnabled = true) (now : ℕ) (text : String)
    (services : List Service) (generation : ℕ) :
    (e.keep now text services generation).2.registry.cache =
      (e.registry.cache.put now (Fingerprint.ofText text) services generation).2 := by
  rw [keep, if_pos hon]
  rfl

/-- What a match of a text does to the cache. -/
theorem cache_matchText (hon : e.config.cacheEnabled = true) (hne : text.isEmpty = false) :
    (e.matchText now text).2.registry.cache =
      if e.isCached now text then e.registry.cache
      else
        let c := (e.registry.cache.get now (Fingerprint.ofText text)).2
        (c.put now (Fingerprint.ofText text) (e.analysis text).services c.generation).2 := by
  rw [matchText, registry_conclude, search, lookUp, hne, hon, isCached]
  cases hget : e.registry.cache.get now (Fingerprint.ofText text) with
  | mk known cache =>
    cases known with
    | some services =>
      have hsame : (e.registry.cache.get now (Fingerprint.ofText text)).2 = e.registry.cache :=
        get_snd_of_isSome (by rw [hget]; rfl)
      rw [hget] at hsame
      exact hsame
    | none =>
      simp only [Option.isSome_none, Bool.false_eq_true, if_false, if_true]
      refine (cache_keep ?_ now text _ _).trans ?_
      · exact hon
      · rfl

/-- At the beginning nothing is gone. -/
theorem outlasts_nil (p : Fingerprint × Entry) : e.outlasts now [] p = true := Bool.or_true _

/-- Once something is written, what had expired is gone. -/
theorem outlasts_of_ne_nil (h : e.newTexts now texts ≠ []) : e.outlasts now texts = isLive now := by
  funext p
  rw [outlasts, List.isEmpty_eq_false_iff.mpr h, Bool.false_and, Bool.or_false]

theorem outlasts_cons_of_empty (p : Fingerprint × Entry) :
    e.outlasts now ("" :: done) p = e.outlasts now done p := by
  rw [outlasts, outlasts, List.all_cons, newTexts_cons_of_not_new (isNew_of_nil analysis_empty)]
  rfl

theorem outlasts_cons_of_known (hsound : Sound e.registry.cache)
    (hknown : e.isCached now text = true ∨ text ∈ e.newTexts now done)
    {p : Fingerprint × Entry} (hp : p ∈ e.registry.cache.entries) :
    e.outlasts now (text :: done) p = e.outlasts now done p := by
  rw [outlasts, outlasts, newTexts_cons_of_known hknown]
  rcases hknown with hcached | hmem
  · -- the entry of the text has not expired, and the other entries are not under its fingerprint
    obtain ⟨q, hq, hkey, hlive⟩ := (isCached_iff hsound).mp hcached
    by_cases hpkey : p.1 = Fingerprint.ofText text
    · rw [hsound.eq_of_key_eq hp hq (hpkey.trans hkey.symm), hlive]
      rfl
    · rw [List.all_cons, bne_iff_ne.mpr hpkey, Bool.or_true, Bool.true_and]
  · rw [List.isEmpty_eq_false_iff.mpr (List.ne_nil_of_mem hmem), Bool.false_and, Bool.false_and]

theorem outlasts_cons_of_nil (hsound : Sound e.registry.cache) (hne : text.isEmpty = false)
    (hcached : ¬ e.isCached now text = true) (hnil : (e.analysis text).services = [])
    {p : Fingerprint × Entry} (hp : p ∈ e.registry.cache.entries) :
    e.outlasts now (text :: done) p =
      (p.1 != Fingerprint.ofText text && e.outlasts now done p) := by
  rw [outlasts, outlasts, newTexts_cons_of_not_new (isNew_of_nil hnil)]
  by_cases hlive : isLive now p = true
  · have hkey : p.1 ≠ Fingerprint.ofText text := fun hkey =>
      hcached ((isCached_iff hsound).mpr ⟨p, hp, hkey, hlive⟩)
    simp [hlive, hkey]
  · cases (e.newTexts now done).isEmpty <;> simp [hlive, hne]

theorem hasMatched_nil (h : Limited e.registry.cache.ttl e) : HasMatched e first last [] e where
  stems := .refl e
  limited := h
  remains :=
    ⟨[], (List.filter_eq_self.mpr fun p _ => outlasts_nil p).symm, rfl, by simp⟩

/-- The entries decide whether the engine after one more match is described. -/
theorem HasMatched.matchText (h : HasMatched e first last done after) (written : Entries)
    (hremains : Remains e first last (text :: done) written
      (after.matchText now text).2.registry.cache.entries) :
    HasMatched e first last (text :: done) (after.matchText now text).2 where
  stems := h.stems.trans (stems_matchText after now text)
  limited := (invariant_limited _).search.matchText trivial h.limited now
  remains := ⟨written, hremains⟩

/-- The empty text is not looked up. -/
theorem HasMatched.empty (h : HasMatched e first last done after) (now : ℕ) :
    HasMatched e first last ("" :: done) (after.matchText now "").2 := by
  obtain ⟨written, hw⟩ := h.remains
  refine h.matchText written ⟨?_, ?_, hw.live⟩
  · show after.registry.cache.entries = _
    rw [hw.split]
    exact congrArg _ (List.filter_congr fun p _ => (outlasts_cons_of_empty p).symm)
  · rw [hw.results, newTexts_cons_of_not_new (isNew_of_nil analysis_empty)]

/-- A text that is found changes nothing. -/
theorem HasMatched.hit (h : HasMatched e first last done after)
    (he : Followed e first last texts) (hne : text.isEmpty = false)
    (hhit : after.isCached now text = true)
    (hknown : e.isCached first text = true ∨ text ∈ e.newTexts first done) :
    HasMatched e first last (text :: done) (after.matchText now text).2 := by
  obtain ⟨written, hw⟩ := h.remains
  refine h.matchText written ⟨?_, ?_, hw.live⟩
  · rw [cache_matchText (h.stems.config ▸ he.enabled) hne, if_pos hhit, hw.split]
    exact congrArg _ (List.filter_congr fun p hp =>
      (outlasts_cons_of_known he.limited.sound hknown hp).symm)
  · rw [hw.results, newTexts_cons_of_known hknown]

/-- What was written under the fingerprint of a text was written for that text. -/
theorem Remains.exists_iff {written entries : Entries}
    (hw : Remains e first last done written entries) (hdiff : FingerprintsDiffer texts)
    (hsub : ∀ t ∈ text :: done, t ∈ texts) :
    (∃ p ∈ written, p.1 = Fingerprint.ofText text) ↔ text ∈ e.newTexts first done := by
  obtain ⟨htext, hdone⟩ := List.forall_mem_cons.mp hsub
  have hkeys : written.map Prod.fst = (e.newTexts first done).map Fingerprint.ofText := by
    have := congrArg (List.map Prod.fst) hw.results
    rwa [List.map_map, List.map_map] at this
  rw [← List.mem_map (f := Prod.fst), hkeys, List.mem_map]
  constructor
  · rintro ⟨t, ht, hkey⟩
    exact hdiff t (hdone t (mem_newTexts.mp ht).1) text htext hkey ▸ ht
  · exact fun hmem => ⟨text, hmem, rfl⟩

/-- **What is known by now** was cached from the beginning, or has been matched since and something
was found. -/
theorem HasMatched.isCached_iff (h : HasMatched e first last done after)
    (he : Followed e first last texts) (hsub : ∀ t ∈ text :: done, t ∈ texts)
    (hle : first ≤ now) (hge : now ≤ last) :
    after.isCached now text = true ↔
      e.isCached first text = true ∨ text ∈ e.newTexts first done := by
  obtain ⟨written, hw⟩ := h.remains
  rw [Engine.isCached_iff h.limited.sound, Engine.isCached_iff he.limited.sound, hw.split,
    ← hw.exists_iff he.distinct hsub]
  constructor
  · rintro ⟨p, hp, hkey, hlive⟩
    rcases List.mem_append.mp hp with hp | hp
    · exact .inr ⟨p, hp, hkey⟩
    · have hmem := (List.mem_filter.mp hp).1
      exact .inl ⟨p, hmem, hkey, he.calm.isLive_eq hle hge hmem ▸ hlive⟩
  · rintro (⟨p, hp, hkey, hlive⟩ | ⟨p, hp, hkey⟩)
    · have hlasts : e.outlasts first done p = true := by rw [outlasts, hlive, Bool.true_or]
      exact ⟨p, List.mem_append_right _ (List.mem_filter.mpr ⟨hp, hlasts⟩), hkey,
        (he.calm.isLive_eq hle hge hp).trans hlive⟩
    · exact ⟨p, List.mem_append_left _ hp, hkey,
        isLive_iff.mpr (hge.trans_lt (isLive_iff.mp (hw.live p hp)))⟩

/-! ### A look-up in vain -/

section Miss

variable {written : Entries} (h : HasMatched e first last done after)
  (he : Followed e first last texts)
  (hw : Remains e first last done written after.registry.cache.entries)
  (hother : ∀ p ∈ written, p.1 ≠ Fingerprint.ofText text)
  (hmiss : ¬ after.isCached now text = true)
include h hw hother hmiss

/-- The entry under the fingerprint is gone, if it was there and had expired. -/
theorem HasMatched.entries_get :
    (after.registry.cache.get now (Fingerprint.ofText text)).2.entries =
      written ++ e.registry.cache.entries.filter fun p =>
        p.1 != Fingerprint.ofText text && e.outlasts first done p := by
  have hstays : written.filter (fun p => p.1 != Fingerprint.ofText text) = written :=
    List.filter_eq_self.mpr fun p hp => bne_iff_ne.mpr (hother p hp)
  rw [h.limited.sound.get_entries_of_not_isSome hmiss, hw.split, List.filter_append,
    List.filter_filter, hstays]

variable (hcached : ¬ e.isCached first text = true)
include he hcached

/-- A text in which nothing is found is not written. -/
theorem HasMatched.miss_of_nil (hne : text.isEmpty = false)
    (hnil : (e.analysis text).services = []) :
    HasMatched e first last (text :: done) (after.matchText now text).2 := by
  refine h.matchText written ⟨?_, ?_, hw.live⟩
  · rw [cache_matchText (h.stems.config ▸ he.enabled) hne, if_neg hmiss,
      h.stems.analysis, hnil]
    show (Cache.put _ _ _ [] _).2.entries = _
    rw [put_of_not_accepts (by simp [accepts]), h.entries_get hw hother hmiss]
    exact congrArg _ (List.filter_congr fun p hp =>
      (outlasts_cons_of_nil he.limited.sound hne hcached hnil hp).symm)
  · rw [hw.results, newTexts_cons_of_not_new (isNew_of_nil hnil)]

variable (hle : first ≤ now) (hge : now ≤ last)
include hle hge

/-- A sweep leaves what was written, and what had not expired in the beginning. -/
theorem HasMatched.filter_get :
    (after.registry.cache.get now (Fingerprint.ofText text)).2.entries.filter (isLive now) =
      written ++ e.registry.cache.entries.filter (isLive first) := by
  have hstays : written.filter (isLive now) = written := List.filter_eq_self.mpr fun p hp =>
    isLive_iff.mpr (hge.trans_lt (isLive_iff.mp (hw.live p hp)))
  rw [h.entries_get hw hother hmiss, List.filter_append, List.filter_filter, hstays]
  refine congrArg _ (List.filter_congr fun p hp => ?_)
  rw [he.calm.isLive_eq hle hge hp]
  cases hlive : isLive first p with
  | false => rfl
  | true =>
    have hkey : p.1 ≠ Fingerprint.ofText text := fun hkey =>
      hcached ((Engine.isCached_iff he.limited.sound).mpr ⟨p, hp, hkey, hlive⟩)
    rw [bne_iff_ne.mpr hkey, outlasts, hlive]
    rfl

variable (hsub : ∀ t ∈ text :: done, t ∈ texts) (hfirst : text ∉ e.newTexts first done)
  (hfound : (e.analysis text).services ≠ [])
include hsub hfirst hfound

/-- The result of a new text finds room. -/
theorem HasMatched.countP_get_lt :
    (after.registry.cache.get now (Fingerprint.ofText text)).2.entries.countP (isLive now) <
      e.registry.cache.capacity := by
  have hlength : written.length = (e.newTexts first done).length := by
    rw [← List.length_map (f := content), hw.results, List.length_map]
  have hnew := length_newTexts_le e first hsub
  rw [newTexts_cons_of_new (by simp [isNew, hfound, hcached]) hfirst, List.length_cons] at hnew
  have hroom := he.calm.room
  rw [List.countP_eq_length_filter, h.filter_get he hw hother hmiss hcached hle hge,
    List.length_append, ← List.countP_eq_length_filter]
  omega

/-- The first time that something is found in a text it is written, and nothing is evicted. -/
theorem HasMatched.miss_of_new (hne : text.isEmpty = false) :
    HasMatched e first last (text :: done) (after.matchText now text).2 := by
  have hcons : e.newTexts first (text :: done) = text :: e.newTexts first done :=
    newTexts_cons_of_new (by simp [isNew, hfound, hcached]) hfirst
  have hsweep := h.filter_get he hw hother hmiss hcached hle hge
  have hroom := h.countP_get_lt he hw hother hmiss hcached hle hge hsub hfirst hfound
  have hsound := h.limited.sound.get now (Fingerprint.ofText text)
  have hkeys : ∀ p ∈ (after.registry.cache.get now (Fingerprint.ofText text)).2.entries,
      p.1 ≠ Fingerprint.ofText text := by
    intro p hp
    rw [h.limited.sound.get_entries_of_not_isSome hmiss, List.mem_filter, bne_iff_ne] at hp
    exact hp.2
  set c := (after.registry.cache.get now (Fingerprint.ofText text)).2 with hc
  obtain ⟨httl, hcapacity⟩ : c.ttl = e.registry.cache.ttl ∧
      c.capacity = e.registry.cache.capacity := by
    rw [hc, get_eq_of_entries, he.limited.capacity, ← h.stems.config]
    exact ⟨h.limited.ttl, h.limited.capacity⟩
  refine h.matchText ((Fingerprint.ofText text,
    ⟨(e.analysis text).services, now + c.ttl, c.generation⟩) :: written) ⟨?_, ?_, ?_⟩
  · rw [cache_matchText (h.stems.config ▸ he.enabled) hne, if_neg hmiss,
      h.stems.analysis, outlasts_of_ne_nil (by simp [hcons]), List.cons_append,
      ← hsweep]
    have hclock := he.calm.clock
    exact hsound.put_entries hfound hkeys (hcapacity.symm ▸ hroom) (by omega)
  · rw [hcons, List.map_cons, List.map_cons, hw.results]
    rfl
  · refine List.forall_mem_cons.mpr ⟨isLive_iff.mpr ?_, hw.live⟩
    have := he.calm.written
    show last < now + c.ttl
    omega

end Miss

/-- **A match of one more text**, and whether it is a miss. -/
theorem HasMatched.step (h : HasMatched e first last done after)
    (he : Followed e first last texts) (hsub : ∀ t ∈ text :: done, t ∈ texts)
    (hle : first ≤ now) (hge : now ≤ last) :
    HasMatched e first last (text :: done) (after.matchText now text).2 ∧
      e.missesOf first (text :: done) =
        e.missesOf first done + if MatchStep.isMiss ⟨after, now, text⟩ then 1 else 0 := by
  have hknown := h.isCached_iff he hsub hle hge
  cases hne : text.isEmpty with
  | true =>
    rw [String.isEmpty_iff] at hne
    subst hne
    refine ⟨h.empty now, ?_⟩
    rw [missesOf_cons_of_nil analysis_empty]
    simp [MatchStep.isMiss, MatchStep.isLookUp]
  | false =>
    have hisMiss : MatchStep.isMiss ⟨after, now, text⟩ = !after.isCached now text := by
      rw [MatchStep.isMiss, MatchStep.isLookUp, h.stems.config, he.enabled, hne, isCached,
        Option.not_isSome]
      rfl
    rw [hisMiss]
    by_cases hhit : after.isCached now text = true
    · refine ⟨h.hit he hne hhit (hknown.mp hhit), ?_⟩
      rw [missesOf_cons_of_known (hknown.mp hhit), hhit]
      rfl
    · obtain ⟨hcached, hfirst⟩ := not_or.mp (hknown.not.mp hhit)
      obtain ⟨written, hw⟩ := h.remains
      have hother : ∀ p ∈ written, p.1 ≠ Fingerprint.ofText text := fun p hp hkey =>
        hfirst ((hw.exists_iff he.distinct hsub).mp ⟨p, hp, hkey⟩)
      rw [Bool.eq_false_of_not_eq_true hhit]
      by_cases hfound : (e.analysis text).services = []
      · refine ⟨h.miss_of_nil he hw hother hhit hcached hne hfound, ?_⟩
        rw [missesOf_cons_of_nil hfound, hne, Bool.eq_false_of_not_eq_true hcached]
        rfl
      · refine ⟨h.miss_of_new he hw hother hhit hcached hle hge hsub hfirst hfound hne, ?_⟩
        exact missesOf_cons_of_new (by simp [isNew, hfound, hcached]) hfirst

/-! ### All matches -/

/-- The matches of banners one after the other. -/
def eachSteps (e : Engine) : List (ℕ × String) → List MatchStep
  | [] => []
  | (now, banner) :: rest => ⟨e, now, banner⟩ :: (e.matchBanner now banner).2.eachSteps rest

/-- **Matches one after the other**, and the number of misses among them. -/
theorem HasMatched.each (h : HasMatched e first last done after)
    (he : Followed e first last texts) (hdone : ∀ t ∈ done, t ∈ texts)
    (banners : List (ℕ × String))
    (hin : ∀ b ∈ banners, b.2 ∈ texts ∧ first ≤ b.1 ∧ b.1 ≤ last) :
    HasMatched e first last ((banners.map Prod.snd).reverse ++ done)
        (after.matchEach banners).2 ∧
      e.missesOf first ((banners.map Prod.snd).reverse ++ done) =
        e.missesOf first done + (after.eachSteps banners).countP MatchStep.isMiss := by
  induction banners generalizing after done with
  | nil => exact ⟨h, rfl⟩
  | cons b rest ih =>
    obtain ⟨⟨htext, hle, hge⟩, hrest⟩ := List.forall_mem_cons.mp hin
    have hsub := List.forall_mem_cons.mpr ⟨htext, hdone⟩
    obtain ⟨hstep, hmisses⟩ := h.step he hsub hle hge
    obtain ⟨hall, hcount⟩ := ih hstep hsub hrest
    rw [List.map_cons, List.reverse_cons, List.append_assoc, List.singleton_append]
    refine ⟨hall, hcount.trans ?_⟩
    rw [hmisses, eachSteps, List.countP_cons, Nat.add_assoc]
    exact congrArg _ (Nat.add_comm _ _)

/-- **What matches come to**: the misses among them and what is cached afterwards are given by the
texts, in whatever order these are matched. -/
theorem Followed.matchEach (he : Followed e first last texts) (banners : List (ℕ × String))
    (hperm : (banners.map Prod.snd).Perm texts)
    (hin : ∀ b ∈ banners, first ≤ b.1 ∧ b.1 ≤ last) :
    (e.eachSteps banners).countP MatchStep.isMiss = e.missesOf first texts ∧
      ((e.matchEach banners).2.registry.cache.entries.map content).Perm
        ((e.newTexts first texts).map e.resultOf ++
          (e.registry.cache.entries.filter (e.outlasts first texts)).map content) := by
  obtain ⟨hmatched, hmisses⟩ := (hasMatched_nil he.limited).each he (by simp) banners
    fun b hb => ⟨hperm.subset (List.mem_map_of_mem hb), hin b hb⟩
  rw [List.append_nil] at hmatched hmisses
  have hreverse : (banners.map Prod.snd).reverse.Perm texts := (List.reverse_perm _).trans hperm
  refine ⟨?_, ?_⟩
  · rw [← missesOf_perm hreverse, hmisses]
    exact (Nat.zero_add _).symm
  · obtain ⟨written, hw⟩ := hmatched.remains
    rw [hw.split, List.map_append, hw.results, outlasts_perm hreverse]
    exact ((newTexts_perm hreverse).map _).append_right _

end Engine
end BannerMatch
