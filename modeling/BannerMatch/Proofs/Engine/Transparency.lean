import BannerMatch.Proofs.Analysis
import BannerMatch.Proofs.Engine.History

/-!
# The cache is transparent

Whatever was cached, evicted, expired or invalidated before, a match finds what an analysis by the
rules of now finds, or it breaks down; it does not within the limits of permits and clock
(`perform_run_eq_uncached`). Besides, the texts of the history are assumed to have different
fingerprints.

The invariant is `Faithful texts e`: every cached entry holds what an analysis by the rules of now
finds in a text that has the fingerprint of the entry. A change of the rules empties the cache, a
look-up, a sweep or an eviction only takes entries away, and a write adds an analysis by the rules
of now.
-/

namespace BannerMatch

/-- No two of the texts have the same fingerprint. -/
def FingerprintsDiffer (texts : List String) : Prop :=
  ∀ s ∈ texts, ∀ t ∈ texts, Fingerprint.ofText s = Fingerprint.ofText t → s = t

instance (texts : List String) : Decidable (FingerprintsDiffer texts) :=
  inferInstanceAs (Decidable (∀ s ∈ texts, ∀ t ∈ texts,
    Fingerprint.ofText s = Fingerprint.ofText t → s = t))

theorem fingerprintsDiffer_singleton (text : String) : FingerprintsDiffer [text] :=
  fun _ hs _ ht _ => (List.mem_singleton.mp hs).trans (List.mem_singleton.mp ht).symm

/-- What rules find for a banner and a response, straight from an analysis; in an empty banner
nothing is found. -/
def uncached (rules : List CompiledRule) (synthesizeCpe : Bool) (banner : String)
    (response : Option (List UInt8)) : List Service :=
  if banner.isEmpty then []
  else
    (analyze rules (String.ofList (Payload.searchable banner.toList response))
      synthesizeCpe).services

theorem uncached_undated (rules : List CompiledRule) (synthesizeCpe : Bool) (banner : String)
    (response : Option (List UInt8)) :
    uncached (rules.map CompiledRule.undated) synthesizeCpe banner response =
      uncached rules synthesizeCpe banner response := by
  rw [uncached, uncached, analyze_undated]

/-- The answer to a match, straight from analyses; other operations have none. -/
def uncachedAnswer? (rules : List CompiledRule) (synthesizeCpe : Bool) :
    Operation → Option Answer
  | .matchBanner banner => some (.services (uncached rules synthesizeCpe banner none))
  | .matchResponse banner response =>
      some (.services (uncached rules synthesizeCpe banner response))
  | .bestMatch banner => some (.best (uncached rules synthesizeCpe banner none).head?)
  | .matchBatch banners _ =>
      some (.batch (banners.map fun banner => uncached rules synthesizeCpe banner none))
  | _ => none

/-- Whether an operation broke down, or one of its tasks. -/
def Answer.isBreakdown : Answer → Bool
  | .brokenDown _ => true
  | .failed .taskFailed => true
  | _ => false

namespace Cache

/-- A write keeps a property of the entries if the new entry has it. -/
theorem forall_mem_put {Q : Fingerprint × Entry → Prop} {c : Cache}
    (hc : ∀ p ∈ c.entries, Q p) (now : ℕ) (key : Fingerprint) (services : List Service)
    (generation : ℕ) (hnew : ∀ e : Entry, e.services = services → Q (key, e)) :
    ∀ p ∈ (c.put now key services generation).2.entries, Q p := by
  have hroom : ∀ p ∈ ((c.sweep now).2.makeRoom key).entries, Q p := fun p hp =>
    hc p ((sweep_entries_sublist c now).subset ((makeRoom_entries_sublist _ key).subset hp))
  rcases c.put_cases now key services generation with ⟨-, heq⟩ | ⟨-, -, heq⟩ | ⟨-, -, heq⟩
  · rw [heq]
    exact hc
  · rw [heq]
    intro p hp
    rcases List.mem_cons.1 hp with rfl | hp
    · exact hnew _ rfl
    · exact hroom p (mem_dropIf.1 hp).1
  · rw [heq]
    exact hroom

end Cache

namespace Engine

/-- What is cached is what the rules of now find. -/
def Faithful (texts : List String) (e : Engine) : Prop :=
  ∀ p ∈ e.registry.cache.entries, ∃ text ∈ texts,
    p.1 = Fingerprint.ofText text ∧ p.2.services = (e.analysis text).services

variable {texts : List String} {e : Engine}

theorem Faithful.of_nil (h : e.registry.cache.entries = []) : Faithful texts e := by
  intro p hp
  rw [h] at hp
  cases hp

/-- An engine with the same rules and fewer entries. -/
theorem Faithful.withCache (h : Faithful texts e) {c : Cache}
    (hsub : c.entries.Sublist e.registry.cache.entries) : Faithful texts (e.withCache c) :=
  fun p hp => h p (hsub.subset hp)

theorem analysis_empty : (e.analysis "").services = [] := rfl

/-- No step of a match makes the cache unfaithful. -/
theorem kept_faithful (texts : List String) : Kept (· ∈ texts) (Faithful texts) := by
  intro e text c f htext hc he
  cases hc with
  | none => exact he
  | read now hon => exact he.withCache (Cache.get_entries_sublist _ now _)
  | write now hon =>
    -- what is written is what the rules of now find
    exact Cache.forall_mem_put he now _ _ _ fun entry hservices => ⟨text, htext, rfl, hservices⟩

/-- What the cache gives out for a text belongs to that text. -/
theorem Faithful.eq_of_get (h : Faithful texts e) (hdiff : FingerprintsDiffer texts) {text : String}
    (htext : text ∈ texts) {now : ℕ} {services : List Service}
    (hget : (e.registry.cache.get now (Fingerprint.ofText text)).1 = some services) :
    services = (e.analysis text).services := by
  obtain ⟨entry, hentry, -, hservices⟩ := Cache.exists_of_get_eq_some hget
  obtain ⟨other, hother, hkey, hsame⟩ := h _ hentry
  rw [hdiff text htext other hother hkey]
  exact hservices.symm.trans hsame

/-- **What comes of matches** by a faithful engine: what the rules find, unless something cannot be
kept at one of the instants. -/
theorem matching_faithful (hdiff : FingerprintsDiffer texts) (e : Engine) (I : ℕ → Prop) :
    Matching I (· ∈ texts) (fun e' => Faithful texts e' ∧ Stems e e') fun text outcome =>
      outcome = .ok (e.analysis text).services ∨
        (∃ cause, outcome = .error cause) ∧ ∃ now, I now ∧ ¬ e.CanKeep now where
  kept := fun e' text c f htext hc he' =>
    ⟨kept_faithful texts e' text c f htext hc he'.1,
      kept_stems (· ∈ texts) e e' text c f htext hc he'.2⟩
  empty := .inl rfl
  read e' now text services htext he' hget := by
    rw [he'.1.eq_of_get hdiff htext hget, he'.2.analysis]
    exact .inl rfl
  found e' text htext he' := by
    rw [he'.2.analysis]
    exact .inl rfl
  broken e' now text cause hnow htext he' hon hput := by
    have hnot := not_canKeep_of_put hon hput
    rw [he'.2.canKeep_iff] at hnot
    exact .inr ⟨⟨cause, rfl⟩, now, hnow, hnot⟩

variable {text : String} {now : ℕ}

/-- **A match finds what the rules of now find**, or breaks down. -/
theorem Faithful.matchText (h : Faithful texts e) (hdiff : FingerprintsDiffer texts)
    (htext : text ∈ texts) (now : ℕ) :
    (e.matchText now text).1 = .ok (e.analysis text).services ∨
      (∃ cause, (e.matchText now text).1 = .error cause) ∧ ¬ e.CanKeep now := by
  obtain ⟨hmatched, -⟩ :=
    (matching_faithful hdiff e (· = now)).matchText rfl htext ⟨h, .refl e⟩
  simpa using hmatched

theorem Faithful.matchText_eq (h : Faithful texts e) (hdiff : FingerprintsDiffer texts)
    (htext : text ∈ texts) (hkeep : e.CanKeep now) :
    (e.matchText now text).1 = .ok (e.analysis text).services :=
  (h.matchText hdiff htext now).resolve_right fun hbroken => hbroken.2 hkeep

theorem Faithful.eq_of_matchText (h : Faithful texts e) (hdiff : FingerprintsDiffer texts)
    (htext : text ∈ texts) {services : List Service}
    (hfound : (e.matchText now text).1 = .ok services) :
    services = (e.analysis text).services := by
  rcases h.matchText hdiff htext now with hmatched | ⟨⟨cause, hbroken⟩, -⟩
  · rw [hmatched] at hfound
    exact (Except.ok.inj hfound).symm
  · rw [hbroken] at hfound
    cases hfound

/-- No history makes the cache unfaithful. -/
theorem invariant_faithful (texts : List String) :
    Invariant (fun _ => True) (· ∈ texts) (Faithful texts) where
  load _ _ _ _ _ := Faithful.of_nil rfl
  add e after now rule id _ _ hok := by
    obtain ⟨-, -, c, -, -, rfl⟩ := add_eq_ok hok
    exact Faithful.of_nil rfl
  remove e id he := by
    rw [Engine.remove, Registry.remove_eq]
    split
    · exact Faithful.of_nil rfl
    · exact he
  search := kept_faithful texts
  clear _ _ := Faithful.of_nil rfl
  sweep e now he := he.withCache (Cache.sweep_entries_sublist _ now)

/-! ### Matches -/

theorem uncached_eq_analysis (e : Engine) (banner : String) (response : Option (List UInt8)) :
    uncached e.registry.rules e.config.synthesizeCpe banner response =
      (e.analysis (searchedText banner response)).services := by
  rw [uncached, searchedText]
  split
  · rename_i hempty
    rw [String.isEmpty_iff] at hempty
    subst hempty
    exact analysis_empty.symm
  · rfl

theorem searchedText_none (banner : String) : searchedText banner none = banner := by
  rw [searchedText]
  split
  · rfl
  · exact String.ofList_toList

/-- A match that answers answers as an analysis by the rules of now does, and it answers if what it
finds can be kept. -/
theorem Faithful.matchResponse (h : Faithful texts e) (hdiff : FingerprintsDiffer texts)
    {banner : String} {response : Option (List UInt8)}
    (htext : searchedText banner response ∈ texts) (hkeep : e.CanKeep now) :
    (e.matchResponse now banner response).1 =
      .ok (uncached e.registry.rules e.config.synthesizeCpe banner response) := by
  rw [uncached_eq_analysis]
  exact h.matchText_eq hdiff htext hkeep

theorem Faithful.matchBanner (h : Faithful texts e) (hdiff : FingerprintsDiffer texts)
    {banner : String} (htext : banner ∈ texts) (hkeep : e.CanKeep now) :
    (e.matchBanner now banner).1 =
      .ok (uncached e.registry.rules e.config.synthesizeCpe banner none) := by
  rw [uncached_eq_analysis, searchedText_none]
  exact h.matchText_eq hdiff htext hkeep

variable {banners : List String} {schedule : List Turn}

/-- A batch that has services has those that the rules of now find in its banners. -/
theorem Faithful.eq_of_matchBatch (h : Faithful texts e) (hdiff : FingerprintsDiffer texts)
    (htexts : ∀ text ∈ banners, text ∈ texts) {found : List (List Service)}
    (hfound : (e.matchBatch now banners schedule).1 = .ok (.ok found)) :
    found =
      banners.map fun banner => uncached e.registry.rules e.config.synthesizeCpe banner none := by
  have hall := ((matching_faithful hdiff e fun _ => True).matchBatch ⟨h, .refl e⟩
    (fun _ _ => trivial) htexts).1 found hfound
  have heach : List.Forall₂ (· = ·)
      (banners.map fun banner => uncached e.registry.rules e.config.synthesizeCpe banner none)
      found := by
    rw [List.forall₂_map_left_iff]
    refine hall.imp fun banner services hone => ?_
    rw [uncached_eq_analysis, searchedText_none]
    simpa [eq_comm] using hone
  rw [List.forall₂_eq_eq_eq] at heach
  exact heach.symm

/-- In a batch every banner is matched by the same rules, whatever turns the tasks take. -/
theorem Faithful.matchBatch (h : Faithful texts e) (hdiff : FingerprintsDiffer texts)
    (htexts : ∀ text ∈ banners, text ∈ texts) (hpermits : e.config.permits ≤ maxPermits)
    (hkeep : ∀ t ∈ now :: schedule.map Turn.instant, e.CanKeep t) :
    (e.matchBatch now banners schedule).1 = .ok (.ok (banners.map fun banner =>
      uncached e.registry.rules e.config.synthesizeCpe banner none)) := by
  obtain ⟨found, hfound⟩ := (matching_faithful hdiff e e.CanKeep).exists_matchBatch
    ⟨h, .refl e⟩ hkeep htexts hpermits (by simp)
  rw [hfound, h.eq_of_matchBatch hdiff htexts hfound]

/-- Banners that are matched one after the other get what the rules of now find in each. -/
theorem Faithful.matchEach (h : Faithful texts e) (hdiff : FingerprintsDiffer texts)
    {banners : List (ℕ × String)} (hin : ∀ b ∈ banners, b.2 ∈ texts)
    (hkeep : ∀ b ∈ banners, e.CanKeep b.1) :
    (e.matchEach banners).1 = banners.map fun b => .ok (e.analysis b.2).services := by
  induction banners generalizing e with
  | nil => rfl
  | cons b rest ih =>
    obtain ⟨htext, hin⟩ := List.forall_mem_cons.mp hin
    obtain ⟨hfirst, hrest⟩ := List.forall_mem_cons.mp hkeep
    have hstems := stems_matchText e b.1 b.2
    have hothers := ih ((kept_faithful texts).matchText htext h b.1) hin
      fun b' hb' => (hstems.canKeep_iff b'.1).mpr (hrest b' hb')
    simp only [hstems.analysis] at hothers
    rw [Engine.matchEach, List.map_cons, Engine.matchBanner, h.matchText_eq hdiff htext hfirst]
    exact congrArg _ hothers

/-! ### Engines that match alike -/

/-- Two engines find the same in every banner, in banners that are matched one after the other, and
in batches, whatever turns the tasks take, as long as no text of `texts` is mistaken for one of
them, and nothing takes the matches beyond the limits of permits and clock. -/
structure MatchAlike (texts : List String) (e e' : Engine) : Prop where
  banner : ∀ banner, FingerprintsDiffer (banner :: texts) →
    ∀ now now', e.CanKeep now → e'.CanKeep now' → ∃ found,
      (e.matchBanner now banner).1 = .ok found ∧ (e'.matchBanner now' banner).1 = .ok found
  each : ∀ banners banners', banners.map Prod.snd = banners'.map Prod.snd →
    FingerprintsDiffer (banners.map Prod.snd ++ texts) →
    (∀ b ∈ banners, e.CanKeep b.1) → (∀ b ∈ banners', e'.CanKeep b.1) →
    ∃ found : List (List Service),
      (e.matchEach banners).1 = found.map .ok ∧ (e'.matchEach banners').1 = found.map .ok
  batch : ∀ banners, FingerprintsDiffer (banners ++ texts) →
    e.config.permits ≤ maxPermits → e'.config.permits ≤ maxPermits →
    ∀ now schedule now' schedule', (∀ t ∈ now :: schedule.map Turn.instant, e.CanKeep t) →
      (∀ t ∈ now' :: schedule'.map Turn.instant, e'.CanKeep t) → ∃ found,
        (e.matchBatch now banners schedule).1 = .ok (.ok found) ∧
          (e'.matchBatch now' banners schedule').1 = .ok (.ok found)

/-- Engines whose rules find the same, and whose caches are faithful. -/
theorem matchAlike_of_faithful {e' : Engine}
    (hsame : ∀ text, (e'.analysis text).services = (e.analysis text).services)
    (hone : ∀ banners, FingerprintsDiffer (banners ++ texts) → Faithful (banners ++ texts) e)
    (hother : ∀ banners, FingerprintsDiffer (banners ++ texts) → Faithful (banners ++ texts) e') :
    MatchAlike texts e e' where
  banner banner hdiff now now' hkeep hkeep' := by
    have hmem : banner ∈ [banner] ++ texts := List.mem_cons_self
    refine ⟨_, (hone [banner] hdiff).matchText_eq hdiff hmem hkeep, ?_⟩
    rw [← hsame]
    exact (hother [banner] hdiff).matchText_eq hdiff hmem hkeep'
  each banners banners' htexts hdiff hkeep hkeep' := by
    have hmem : ∀ text ∈ banners.map Prod.snd, text ∈ banners.map Prod.snd ++ texts :=
      fun text ht => List.mem_append_left _ ht
    have hmem' : ∀ text ∈ banners'.map Prod.snd, text ∈ banners.map Prod.snd ++ texts :=
      htexts ▸ hmem
    refine ⟨(banners.map Prod.snd).map fun text => (e.analysis text).services, ?_, ?_⟩
    · rw [(hone _ hdiff).matchEach hdiff (List.forall_mem_map.mp hmem) hkeep, List.map_map,
        List.map_map]
      rfl
    · rw [(hother _ hdiff).matchEach hdiff (List.forall_mem_map.mp hmem') hkeep', htexts,
        List.map_map, List.map_map]
      simp only [hsame]
      rfl
  batch banners hdiff hpermits hpermits' now schedule now' schedule' hkeep hkeep' := by
    have hmem : ∀ text ∈ banners, text ∈ banners ++ texts :=
      fun text ht => List.mem_append_left _ ht
    refine ⟨_, (hone _ hdiff).matchBatch hdiff hmem hpermits hkeep, ?_⟩
    rw [(hother _ hdiff).matchBatch hdiff hmem hpermits' hkeep']
    simp only [uncached_eq_analysis, hsame]

/-! ### Histories -/

/-- What a match answers: what the rules of now find, unless it breaks down. -/
theorem Faithful.ofOutcome_matchText (h : Faithful texts e) (hdiff : FingerprintsDiffer texts)
    (htext : text ∈ texts) (now : ℕ) (answer : List Service → Answer) :
    (Answer.ofOutcome answer (e.matchText now text).1 = answer (e.analysis text).services ∨
      (Answer.ofOutcome answer (e.matchText now text).1).isBreakdown = true) ∧
    (e.CanKeep now →
      Answer.ofOutcome answer (e.matchText now text).1 = answer (e.analysis text).services) := by
  rcases h.matchText hdiff htext now with hmatched | ⟨⟨cause, hbroken⟩, hnot⟩
  · rw [hmatched]
    exact ⟨.inl rfl, fun _ => rfl⟩
  · rw [hbroken]
    exact ⟨.inr rfl, fun hkeep => absurd hkeep hnot⟩

/-- What a batch answers. -/
theorem Faithful.ofOutcome_matchBatch (h : Faithful texts e) (hdiff : FingerprintsDiffer texts)
    (htexts : ∀ text ∈ banners, text ∈ texts) (now : ℕ) (schedule : List Turn) :
    let answer := Answer.ofOutcome (.ofResult .batch) (e.matchBatch now banners schedule).1
    let found := banners.map fun banner =>
      uncached e.registry.rules e.config.synthesizeCpe banner none
    (answer = .batch found ∨ answer.isBreakdown = true) ∧
      (e.config.permits ≤ maxPermits → (∀ t ∈ now :: schedule.map Turn.instant, e.CanKeep t) →
        answer = .batch found) := by
  refine ⟨?_, fun hpermits hkeep => ?_⟩
  · rcases e.matchBatch_cases now banners schedule with
      ⟨found, hfound⟩ | hfailed | ⟨hbroken, -⟩
    · rw [hfound, h.eq_of_matchBatch hdiff htexts hfound]
      exact .inl rfl
    · rw [hfailed]
      exact .inr rfl
    · rw [hbroken]
      exact .inr rfl
  · rw [h.matchBatch hdiff htexts hpermits hkeep]
    rfl

/-- A match by a faithful engine answers as an analysis by the rules of now does, or it breaks down;
it does not within the limits of the engine. -/
theorem Faithful.perform (h : Faithful texts e) (hdiff : FingerprintsDiffer texts)
    {op : Operation} (htexts : ∀ text ∈ op.texts, text ∈ texts) (now : Moment) :
    ∀ answer ∈ uncachedAnswer? e.registry.rules e.config.synthesizeCpe op,
      ((e.perform now op).1 = answer ∨ (e.perform now op).1.isBreakdown = true) ∧
        ((op.isBatch = true → e.config.permits ≤ maxPermits) →
          (∀ t ∈ op.instants now.instant, e.CanKeep t) → (e.perform now op).1 = answer) := by
  intro answer hanswer
  have hmatch : ∀ (text : String) (f : List Service → Answer), text ∈ op.texts →
      (Answer.ofOutcome f (e.matchText now.instant text).1 = f (e.analysis text).services ∨
        (Answer.ofOutcome f (e.matchText now.instant text).1).isBreakdown = true) ∧
      (e.CanKeep now.instant →
        Answer.ofOutcome f (e.matchText now.instant text).1 = f (e.analysis text).services) :=
    fun text f htext => h.ofOutcome_matchText hdiff (htexts text htext) now.instant f
  -- only matches have an answer that an analysis gives
  cases op with
  | matchBanner banner =>
    cases hanswer
    rw [uncached_eq_analysis, searchedText_none]
    obtain ⟨hany, hwhole⟩ := hmatch banner .services List.mem_cons_self
    exact ⟨hany, fun _ hkeep => hwhole (hkeep _ List.mem_cons_self)⟩
  | matchResponse banner response =>
    cases hanswer
    rw [uncached_eq_analysis]
    obtain ⟨hany, hwhole⟩ := hmatch (searchedText banner response) .services List.mem_cons_self
    exact ⟨hany, fun _ hkeep => hwhole (hkeep _ List.mem_cons_self)⟩
  | bestMatch banner =>
    cases hanswer
    have hbest : (e.perform now (.bestMatch banner)).1 =
        Answer.ofOutcome (fun found => .best found.head?) (e.matchText now.instant banner).1 := by
      show Answer.ofOutcome .best ((e.matchText now.instant banner).1.map List.head?) = _
      cases (e.matchText now.instant banner).1 <;> rfl
    rw [hbest, uncached_eq_analysis, searchedText_none]
    obtain ⟨hany, hwhole⟩ := hmatch banner (fun found => .best found.head?) List.mem_cons_self
    exact ⟨hany, fun _ hkeep => hwhole (hkeep _ List.mem_cons_self)⟩
  | matchBatch banners schedule =>
    cases hanswer
    obtain ⟨hany, hwhole⟩ := h.ofOutcome_matchBatch hdiff htexts now.instant schedule
    exact ⟨hany, fun hpermits => hwhole (hpermits rfl)⟩
  | _ => cases hanswer

/-- Two texts take turns in a cache with room for one, then a rule is added. -/
def turnsHistory : List (Moment × Operation) :=
  [(⟨0, "2024-01-01 00:00:00"⟩, .load [{ id := "ssh", service := "ssh", pattern := "SSH-" }]),
    (⟨1, "2024-01-01 00:00:00"⟩, .matchBanner "SSH-2.0"),
    (⟨2, "2024-01-01 00:00:00"⟩,
      .matchBatch ["220 ftp", "SSH-2.0"] [⟨2, 1⟩, ⟨2, 0⟩, ⟨3, 1⟩, ⟨3, 0⟩]),
    (⟨4, "2024-01-01 00:00:00"⟩, .addSimple { service := "any", pattern := "." })]

end Engine
end BannerMatch
