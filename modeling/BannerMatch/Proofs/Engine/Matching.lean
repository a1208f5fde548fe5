import BannerMatch.Engine.Operation
import BannerMatch.Proofs.Cache.Invariant
import Mathlib.Tactic

/-!
# What matches do to an engine

A match reads the cache, writes to it and counts. `Access` lists what one of its stages can do to
the cache, and besides the cache and the counters nothing changes (`Stems`). A property that every
such step keeps (`Kept`) is kept by a match.

`Matching I T P Q` says in addition what comes of a match: if the engine has the property `P`, the
text the property `T` and the instant the property `I`, then the outcome has the property `Q`.
`Matching.advance` says so for one stage of a task. A task that is carried out in one go comes to
what `matchText` comes to (`complete_waiting`), hence `Matching.matchText`.
-/

namespace BannerMatch
namespace Engine

/-! ### Steps -/

/-- What a stage of a match of a text can do to the cache. -/
inductive Access (e : Engine) (text : String) : Cache → Prop
  | none : Access e text e.registry.cache
  | read (now : ℕ) (hon : e.config.cacheEnabled = true) :
      Access e text (e.registry.cache.get now (Fingerprint.ofText text)).2
  /-- What is written is what the rules of now find. -/
  | write (now : ℕ) (hon : e.config.cacheEnabled = true) :
      Access e text (e.registry.cache.put now (Fingerprint.ofText text)
        (e.analysis text).services e.registry.cache.generation).2

/-- Every step of a match of a text with the property `T` keeps the property `P`. -/
def Kept (T : String → Prop) (P : Engine → Prop) : Prop :=
  ∀ (e : Engine) (text : String) (c : Cache) (f : Counters → Counters),
    T text → Access e text c → P e → P ((e.withCache c).count f)

/-- The engine that another one has become by steps of matches. -/
def Stems (e after : Engine) : Prop :=
  ∃ entries records counters, after =
    { e.withCache { e.registry.cache with entries := entries, records := records } with
      counters := counters }

/-- **What matches keep**, and what comes of them. -/
structure Matching (I : ℕ → Prop) (T : String → Prop) (P : Engine → Prop)
    (Q : String → Except Breakdown (List Service) → Prop) : Prop where
  kept : Kept T P
  empty : Q "" (.ok [])
  /-- Services that are found in the cache. -/
  read : ∀ (e : Engine) (now : ℕ) (text : String) (services : List Service), T text → P e →
    (e.registry.cache.get now (Fingerprint.ofText text)).1 = some services → Q text (.ok services)
  /-- Services that an analysis finds. -/
  found : ∀ (e : Engine) (text : String), T text → P e → Q text (.ok (e.analysis text).services)
  /-- A write that breaks down. -/
  broken : ∀ (e : Engine) (now : ℕ) (text : String) (cause : Breakdown), I now → T text → P e →
    e.config.cacheEnabled = true →
    (e.registry.cache.put now (Fingerprint.ofText text) (e.analysis text).services
      e.registry.cache.generation).1 = .error cause → Q text (.error cause)

variable {I : ℕ → Prop} {T : String → Prop} {P : Engine → Prop}
  {Q : String → Except Breakdown (List Service) → Prop} {e after later : Engine} {text : String}

namespace Stems

theorem refl (e : Engine) : Stems e e := ⟨_, _, _, rfl⟩

theorem trans (h : Stems e after) (h' : Stems after later) : Stems e later := by
  obtain ⟨_, _, _, rfl⟩ := h
  obtain ⟨entries, records, counters, rfl⟩ := h'
  exact ⟨entries, records, counters, rfl⟩

theorem rules (h : Stems e after) : after.registry.rules = e.registry.rules := by
  obtain ⟨_, _, _, rfl⟩ := h
  rfl

theorem config (h : Stems e after) : after.config = e.config := by
  obtain ⟨_, _, _, rfl⟩ := h
  rfl

theorem ids (h : Stems e after) : after.registry.ids = e.registry.ids := by
  obtain ⟨_, _, _, rfl⟩ := h
  rfl

theorem generation (h : Stems e after) :
    after.registry.cache.generation = e.registry.cache.generation := by
  obtain ⟨_, _, _, rfl⟩ := h
  rfl

theorem ttl (h : Stems e after) : after.registry.cache.ttl = e.registry.cache.ttl := by
  obtain ⟨_, _, _, rfl⟩ := h
  rfl

theorem analysis (h : Stems e after) (text : String) : after.analysis text = e.analysis text := by
  rw [Engine.analysis, Engine.analysis, h.rules, h.config]

end Stems

/-- No step changes more than entries, records and counters. -/
theorem kept_stems (T : String → Prop) (e : Engine) : Kept T (Stems e) := by
  intro e' text c f _ hc he'
  refine he'.trans ?_
  cases hc with
  | none => exact ⟨_, _, _, rfl⟩
  | read now hon =>
    rw [Cache.get_eq_of_entries]
    exact ⟨_, _, _, rfl⟩
  | write now hon =>
    rw [Cache.put_eq]
    exact ⟨_, _, _, rfl⟩

/-! ### The stages of a match -/

theorem Kept.lookUp (h : Kept T P) (htext : T text) (he : P e) (now : ℕ) :
    P (e.lookUp now text).2 := by
  have hread : ∀ (hon : e.config.cacheEnabled = true) (c : Cache) (f : Counters → Counters),
      (e.registry.cache.get now (Fingerprint.ofText text)).2 = c → P ((e.withCache c).count f) := by
    rintro hon c f rfl
    exact h e text _ f htext (.read now hon) he
  rw [Engine.lookUp]
  split
  · exact he
  · split
    · rename_i hon
      split
      · rename_i services cache hget
        exact hread hon cache (fun c => { c with hits := c.hits + 1 }) (congrArg Prod.snd hget)
      · rename_i cache hget
        exact hread hon cache (fun c => { c with misses := c.misses + 1 }) (congrArg Prod.snd hget)
    · exact he

theorem Kept.evaluate (h : Kept T P) (htext : T text) (he : P e) : P (e.evaluate text).2 :=
  h e text _ (fun c => { c with evaluations := c.evaluations + (e.analysis text).evaluations })
    htext .none he

theorem Kept.keep (h : Kept T P) (htext : T text) (he : P e) (now : ℕ) :
    P (e.keep now text (e.analysis text).services e.registry.cache.generation).2 := by
  rw [Engine.keep]
  split
  · rename_i hon
    exact h e text _ id htext (.write now hon) he
  · exact he

theorem Kept.conclude (h : Kept T P) (htext : T text) (he : P e)
    (outcome : Except Breakdown (List Service)) : P (e.conclude outcome) := by
  rw [Engine.conclude]
  split
  · exact h e text _ (fun c => { c with totalMatches := c.totalMatches + 1 }) htext .none he
  · exact he

/-- What a look-up knows of a text. -/
theorem Matching.lookUp (h : Matching I T P Q) (htext : T text) (he : P e) {now : ℕ}
    {services : List Service} (hfound : (e.lookUp now text).1 = some services) :
    Q text (.ok services) := by
  rw [Engine.lookUp] at hfound
  split at hfound
  · rename_i hempty
    rw [String.isEmpty_iff] at hempty
    cases hfound
    subst hempty
    exact h.empty
  · split at hfound
    · split at hfound
      · rename_i found cache hget
        cases hfound
        exact h.read e now text services htext he (congrArg Prod.fst hget)
      · cases hfound
    · cases hfound

/-- What comes of an analysis when it is to be kept. -/
theorem Matching.keep (h : Matching I T P Q) (htext : T text) (he : P e) {now : ℕ} (hnow : I now) :
    Q text ((e.keep now text (e.analysis text).services e.registry.cache.generation).1.map
      fun _ => (e.analysis text).services) := by
  rw [Engine.keep]
  split
  · rename_i hon
    cases hkept : (e.registry.cache.put now (Fingerprint.ofText text) (e.analysis text).services
      e.registry.cache.generation).1 with
    | ok _ => exact h.found e text htext he
    | error cause => exact h.broken e now text cause hnow htext he hon hkept
  · exact h.found e text htext he

theorem stems_withCache_put (e : Engine) (now : ℕ) (key : Fingerprint) (services : List Service)
    (generation : ℕ) :
    Stems e (e.withCache (e.registry.cache.put now key services generation).2) :=
  ⟨(e.registry.cache.put now key services generation).2.entries,
    (e.registry.cache.put now key services generation).2.records, e.counters,
    congrArg e.withCache (Cache.put_eq _ now key services generation)⟩

theorem stems_keep (e : Engine) (now : ℕ) (text : String) (services : List Service)
    (generation : ℕ) : Stems e (e.keep now text services generation).2 := by
  rw [keep]
  split
  · exact stems_withCache_put e now _ services generation
  · exact .refl e

@[simp] theorem registry_conclude (e : Engine) (outcome : Except Breakdown (List Service)) :
    (e.conclude outcome).registry = e.registry := by
  rw [conclude]
  split <;> rfl

theorem stems_conclude (e : Engine) (outcome : Except Breakdown (List Service)) :
    Stems e (e.conclude outcome) := by
  rw [conclude]
  split
  · exact ⟨_, _, _, rfl⟩
  · exact .refl e

/-! ### Tasks -/

/-- What is known of a task whose group started from the engine `e`. -/
structure Known (T : String → Prop) (Q : String → Except Breakdown (List Service) → Prop)
    (e : Engine) (t : MatchTask) : Prop where
  text : T t.text
  analyzed : ∀ services generation, t.stage = .analyzed services generation →
    services = (e.analysis t.text).services ∧ generation = e.registry.cache.generation
  ended : ∀ outcome, t.stage = .ended outcome → Q t.text outcome

/-- What is known of the engine that tasks share. -/
structure Shared (P : Engine → Prop) (e after : Engine) : Prop where
  stems : Stems e after
  kept : P after

theorem known_waiting (Q : String → Except Breakdown (List Service) → Prop) (e : Engine)
    (htext : T text) : Known T Q e { text := text } where
  text := htext
  analyzed := by simp
  ended := by simp

/-- A step keeps what is known of the engine. -/
theorem Kept.shared (h : Kept T P) (e : Engine) : Kept T (Shared P e) :=
  fun e' text c f htext hc he' =>
    ⟨kept_stems T e e' text c f htext hc he'.stems, h e' text c f htext hc he'.kept⟩

variable {t : MatchTask} {now : ℕ}

@[simp] theorem advance_text (e : Engine) (now : ℕ) (t : MatchTask) :
    (e.advance now t).1.text = t.text := by
  rw [advance]
  split
  · split <;> rfl
  · rfl
  · rfl
  · rfl

theorem stems_advance (e : Engine) (now : ℕ) (t : MatchTask) : Stems e (e.advance now t).2 := by
  obtain ⟨text, stage⟩ := t
  cases stage with
  | waiting =>
    have hlooked : Stems e (e.lookUp now text).2 :=
      (kept_stems (fun _ => True) e).lookUp trivial (.refl e) now
    cases hlookUp : e.lookUp now text with
    | mk known looked =>
      rw [hlookUp] at hlooked
      cases known with
      | none => simpa only [Engine.advance, hlookUp] using hlooked
      | some services =>
        simpa only [Engine.advance, hlookUp] using hlooked.trans (stems_conclude _ _)
  | unknown => exact ⟨_, _, _, rfl⟩
  | analyzed services generation =>
    exact (stems_keep e now text services generation).trans (stems_conclude _ _)
  | ended outcome => exact .refl e

/-- **One stage of a task.** -/
theorem Matching.advance (h : Matching I T P Q) (hnow : I now) (ht : Known T Q e t)
    (hafter : Shared P e after) :
    Known T Q e (after.advance now t).1 ∧ Shared P e (after.advance now t).2 := by
  have hshared := h.kept.shared e
  obtain ⟨text, stage⟩ := t
  have htext : T text := ht.text
  cases stage with
  | waiting =>
    have hlooked := hshared.lookUp htext hafter now
    cases hlookUp : after.lookUp now text with
    | mk known looked =>
      rw [hlookUp] at hlooked
      cases known with
      | none =>
        simp only [Engine.advance, hlookUp]
        exact ⟨⟨htext, by simp, by simp⟩, hlooked⟩
      | some services =>
        have hfound := h.lookUp htext hafter.kept (congrArg Prod.fst hlookUp)
        simp only [Engine.advance, hlookUp]
        exact ⟨⟨htext, by simp, by simpa using hfound⟩, hshared.conclude htext hlooked _⟩
  | unknown =>
    have hevaluated := hshared.evaluate htext hafter
    refine ⟨⟨htext, ?_, by simp [Engine.advance]⟩, hevaluated⟩
    rintro services generation hstage
    cases hstage
    exact ⟨congrArg Analysis.services (hafter.stems.analysis text), hevaluated.stems.generation⟩
  | analyzed services generation =>
    -- the rules and the generation are those of the analysis still
    obtain ⟨hservices, hgeneration⟩ :
        services = (after.analysis text).services ∧
          generation = after.registry.cache.generation := by
      rw [hafter.stems.analysis, hafter.stems.generation]
      exact ht.analyzed services generation rfl
    subst hservices hgeneration
    have hfound := h.keep htext hafter.kept hnow
    refine ⟨⟨htext, by simp [Engine.advance], ?_⟩,
      hshared.conclude htext (hshared.keep htext hafter now) _⟩
    rintro outcome hstage
    cases hstage
    exact hfound
  | ended outcome => exact ⟨ht, hafter⟩

theorem Matching.complete (h : Matching I T P Q) (hnow : I now) (ht : Known T Q e t)
    (hafter : Shared P e after) :
    Known T Q e (after.complete now t).1 ∧ Shared P e (after.complete now t).2 := by
  obtain ⟨hfirst, hafter⟩ := h.advance hnow ht hafter
  obtain ⟨hsecond, hafter⟩ := h.advance hnow hfirst hafter
  exact h.advance hnow hsecond hafter

/-- A task that is carried out in one go comes to what a match of its text comes to. -/
theorem complete_waiting (e : Engine) (now : ℕ) (text : String) :
    e.complete now { text := text } =
      (⟨text, .ended (e.matchText now text).1⟩, (e.matchText now text).2) := by
  cases hlookUp : e.lookUp now text with
  | mk known looked =>
    cases known with
    | some services => simp only [complete, Engine.advance, matchText, search, hlookUp]
    | none => simp only [complete, Engine.advance, matchText, search, hlookUp]

/-- Three stages take a task to its end. -/
theorem hasEnded_complete (e : Engine) (now : ℕ) (t : MatchTask) :
    (e.complete now t).1.hasEnded = true := by
  obtain ⟨text, stage⟩ := t
  cases stage with
  | waiting =>
    rw [complete_waiting]
    rfl
  | unknown => rfl
  | analyzed services generation => rfl
  | ended outcome => rfl

/-- A task that has ended stays as it is, and so does the engine. -/
theorem complete_of_hasEnded (h : t.hasEnded = true) (e : Engine) (now : ℕ) :
    e.complete now t = (t, e) := by
  obtain ⟨text, stage⟩ := t
  cases stage with
  | ended outcome => rfl
  | _ => cases h

/-- **What a match keeps, and what comes of it.** -/
theorem Matching.matchText (h : Matching I T P Q) (hnow : I now) (htext : T text) (he : P e) :
    Q text (e.matchText now text).1 ∧ P (e.matchText now text).2 := by
  have hdone := h.complete hnow (known_waiting Q e htext) ⟨.refl e, he⟩
  rw [complete_waiting] at hdone
  exact ⟨hdone.1.ended _ rfl, hdone.2.kept⟩

/-! ### Matches that do not break down -/

/-- What is cached at the instant expires within the range of the clock. -/
def CanKeep (e : Engine) (now : ℕ) : Prop :=
  e.config.cacheEnabled = true → now + e.registry.cache.ttl < instantLimit

instance (e : Engine) (now : ℕ) : Decidable (e.CanKeep now) :=
  inferInstanceAs (Decidable (_ → _))

theorem Stems.canKeep_iff (h : Stems e after) (now : ℕ) :
    after.CanKeep now ↔ e.CanKeep now := by
  rw [CanKeep, CanKeep, h.config, h.ttl]

/-- A write that can be kept does not break down. -/
theorem not_canKeep_of_put (hon : e.config.cacheEnabled = true) {key : Fingerprint}
    {services : List Service} {generation : ℕ} {cause : Breakdown}
    (hput : (e.registry.cache.put now key services generation).1 = .error cause) :
    ¬ e.CanKeep now := by
  intro hkeep
  rw [Cache.put_fst_of_lt (hkeep hon)] at hput
  cases hput

/-- If what they find can be kept, matches do not break down. -/
theorem matching_whole (T : String → Prop) (e : Engine) :
    Matching e.CanKeep T (Stems e) fun _ outcome => ∃ services, outcome = .ok services where
  kept := kept_stems T e
  empty := ⟨_, rfl⟩
  read _ _ _ services _ _ _ := ⟨services, rfl⟩
  found _ _ _ _ := ⟨_, rfl⟩
  broken _ now _ _ hnow _ he hon hput :=
    absurd ((he.canKeep_iff now).mpr hnow) (not_canKeep_of_put hon hput)

/-! ### Properties of the engine alone -/

/-- What every step keeps, whatever comes of the matches. -/
theorem Kept.matching (h : Kept T P) : Matching (fun _ => True) T P fun _ _ => True where
  kept := h
  empty := trivial
  read _ _ _ _ _ _ _ := trivial
  found _ _ _ _ := trivial
  broken _ _ _ _ _ _ _ _ _ := trivial

theorem Kept.matchText (h : Kept T P) (htext : T text) (he : P e) (now : ℕ) :
    P (e.matchText now text).2 :=
  (h.matching.matchText trivial htext he).2

theorem stems_matchText (e : Engine) (now : ℕ) (text : String) :
    Stems e (e.matchText now text).2 :=
  (kept_stems (fun _ => True) e).matchText trivial (.refl e) now

end Engine
end BannerMatch
