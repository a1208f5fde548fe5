import BannerMatch.Proofs.Cache.Contents
import BannerMatch.Proofs.Engine.History

/-!
# What the numbers about an engine count

`Engine.matchSteps` lists the matches of a history, each with the engine that it starts from; a
batch has one for each banner, in the order in which its tasks begin. The counters add them up
(`counted_run`), a breakdown apart: a match that breaks down has counted a look-up and the rules
that were tried, but not itself.

The tasks of a batch count while others are under way, so what is still to be counted for them goes
into the balance: `CountedRun` says that the counters and what is outstanding make up for the
matches that have begun. One stage keeps the balance (`countedRun_advance`), and so does any run
(`Runs.counted`).

The cache never holds more than the configuration allows, and nothing if it is disabled (`Limited`).
`accounts_run` puts both together.
-/

namespace BannerMatch

namespace MatchStep

/-- Whether the text is looked up in the cache. -/
def isLookUp (m : MatchStep) : Bool := m.before.config.cacheEnabled && !m.text.isEmpty

/-- What the cache holds for the text. -/
def cached? (m : MatchStep) : Option (List Service) :=
  (m.before.registry.cache.get m.instant (Fingerprint.ofText m.text)).1

/-- Whether the text is found in the cache. -/
def isHit (m : MatchStep) : Bool := m.isLookUp && m.cached?.isSome

/-- Whether the text is looked up in the cache in vain. -/
def isMiss (m : MatchStep) : Bool := m.isLookUp && m.cached?.isNone

/-- Whether the rules are tried on the text: it is not empty, and was not found in the cache. -/
def isAnalyzed (m : MatchStep) : Bool := !m.text.isEmpty && !m.isHit

/-- The number of rules that can be tried at that moment. -/
def activeRules (m : MatchStep) : ℕ := m.before.registry.stats.active

end MatchStep

/-- The number of rules that are tried in matches. -/
def evaluationsOf (steps : List MatchStep) : ℕ :=
  ((steps.filter MatchStep.isAnalyzed).map MatchStep.activeRules).sum

theorem evaluationsOf_append (first rest : List MatchStep) :
    evaluationsOf (first ++ rest) = evaluationsOf first + evaluationsOf rest := by
  rw [evaluationsOf, List.filter_append, List.map_append, List.sum_append]
  rfl

/-- Between two states of the counters some matches were counted, of which some broke down. -/
structure Counted (c : Counters) (steps : List MatchStep) (broken : ℕ) (c' : Counters) :
    Prop where
  totalMatches : c'.totalMatches + broken = c.totalMatches + steps.length
  hits : c'.hits = c.hits + steps.countP MatchStep.isHit
  misses : c'.misses = c.misses + steps.countP MatchStep.isMiss
  evaluations : c'.evaluations = c.evaluations + evaluationsOf steps

theorem counted_nil (c : Counters) : Counted c [] 0 c := ⟨rfl, rfl, rfl, rfl⟩

theorem Counted.trans {c c' c'' : Counters} {first rest : List MatchStep} {broken others : ℕ}
    (h : Counted c first broken c') (h' : Counted c' rest others c'') :
    Counted c (first ++ rest) (broken + others) c'' where
  totalMatches := by
    have := h.totalMatches
    have := h'.totalMatches
    rw [List.length_append]
    omega
  hits := by rw [h'.hits, h.hits, List.countP_append, Nat.add_assoc]
  misses := by rw [h'.misses, h.misses, List.countP_append, Nat.add_assoc]
  evaluations := by rw [h'.evaluations, h.evaluations, evaluationsOf_append, Nat.add_assoc]

/-- The same numbers of matches lead to the same counters. -/
theorem Counted.eq_of_counts {c c' c'' : Counters} {steps others : List MatchStep}
    (h : Counted c steps 0 c') (h' : Counted c others 0 c'')
    (hlength : steps.length = others.length)
    (hhits : steps.countP MatchStep.isHit = others.countP MatchStep.isHit)
    (hmisses : steps.countP MatchStep.isMiss = others.countP MatchStep.isMiss)
    (hevaluations : evaluationsOf steps = evaluationsOf others) : c' = c'' := by
  have htotal : c'.totalMatches = c''.totalMatches :=
    h.totalMatches.trans ((congrArg _ hlength).trans h'.totalMatches.symm)
  have hhit : c'.hits = c''.hits := by rw [h.hits, h'.hits, hhits]
  have hmiss : c'.misses = c''.misses := by rw [h.misses, h'.misses, hmisses]
  have hevaluated : c'.evaluations = c''.evaluations := by
    rw [h.evaluations, h'.evaluations, hevaluations]
  obtain ⟨t, i, s, v⟩ := c'
  obtain ⟨t', i', s', v'⟩ := c''
  cases htotal
  cases hhit
  cases hmiss
  cases hevaluated
  rfl

/-- A text that is looked up is found, or it is not. -/
theorem countP_isHit_add_countP_isMiss (steps : List MatchStep) :
    steps.countP MatchStep.isHit + steps.countP MatchStep.isMiss =
      steps.countP MatchStep.isLookUp := by
  rw [List.countP_eq_countP_filter_add steps MatchStep.isLookUp fun m => m.cached?.isSome,
    List.countP_filter, List.countP_filter]
  refine congrArg _ (List.countP_congr fun m _ => ?_)
  rw [MatchStep.isMiss, Option.not_isSome]

/-- A text that is not empty is found in the cache, or it is analyzed. -/
theorem countP_isHit_add_countP_isAnalyzed (steps : List MatchStep) :
    steps.countP MatchStep.isHit + steps.countP MatchStep.isAnalyzed =
      steps.countP fun m => !m.text.isEmpty := by
  rw [List.countP_eq_countP_filter_add steps (fun m => !m.text.isEmpty) MatchStep.isHit,
    List.countP_filter, List.countP_filter]
  refine congrArg₂ _ (List.countP_congr fun m _ => ?_) rfl
  rw [MatchStep.isHit, MatchStep.isLookUp]
  cases m.text.isEmpty <;> simp

/-- Whether a task is to be counted still, or never will be, since it broke down. -/
def MatchTask.isUncounted (t : MatchTask) : Bool :=
  match t.stage with
  | .waiting => false
  | .unknown => true
  | .analyzed _ _ => true
  | .ended outcome => !outcome.isOk

namespace Engine

/-! ### The balance of a run -/

/-- The number of rules that will be counted when a task goes on. -/
def outstanding (e : Engine) (t : MatchTask) : ℕ :=
  match t.stage with
  | .unknown => (e.analysis t.text).evaluations
  | _ => 0

/-- The balance between two states of a group whose rules are those of `e`: what the counters have
gained, and what is still to be counted, make up for the matches that have begun. -/
structure CountedRun (e : Engine) (g : TaskGroup) (steps : List MatchStep) (after : TaskGroup) :
    Prop where
  totalMatches :
    after.engine.counters.totalMatches + after.tasks.countP MatchTask.isUncounted =
      g.engine.counters.totalMatches + g.tasks.countP MatchTask.isUncounted + steps.length
  hits : after.engine.counters.hits = g.engine.counters.hits + steps.countP MatchStep.isHit
  misses : after.engine.counters.misses = g.engine.counters.misses + steps.countP MatchStep.isMiss
  evaluations : after.engine.counters.evaluations + (after.tasks.map e.outstanding).sum =
    g.engine.counters.evaluations + (g.tasks.map e.outstanding).sum + evaluationsOf steps

variable {e : Engine} {g after later : TaskGroup} {steps others : List MatchStep} {I : ℕ → Prop}
  {now : ℕ} {text : String}

theorem countedRun_refl (e : Engine) (g : TaskGroup) : CountedRun e g [] g :=
  ⟨rfl, rfl, rfl, rfl⟩

theorem CountedRun.trans (h : CountedRun e g steps after) (h' : CountedRun e after others later) :
    CountedRun e g (steps ++ others) later where
  totalMatches := by rw [h'.totalMatches, h.totalMatches, List.length_append, Nat.add_assoc]
  hits := by rw [h'.hits, h.hits, List.countP_append, Nat.add_assoc]
  misses := by rw [h'.misses, h.misses, List.countP_append, Nat.add_assoc]
  evaluations := by
    rw [h'.evaluations, h.evaluations, evaluationsOf_append, Nat.add_assoc]

/-- What one task does does not touch the balance of the others. -/
theorem CountedRun.among {t next : MatchTask} {started left : Engine}
    (h : CountedRun e ⟨[t], started⟩ steps ⟨[next], left⟩) (before behind : List MatchTask) :
    CountedRun e ⟨before ++ t :: behind, started⟩ steps ⟨before ++ next :: behind, left⟩ where
  totalMatches := by
    have := h.totalMatches
    simp only [List.countP_append, List.countP_cons, List.countP_nil] at this ⊢
    omega
  hits := h.hits
  misses := h.misses
  evaluations := by
    have := h.evaluations
    simp only [List.map_append, List.map_cons, List.map_nil, List.sum_append, List.sum_cons,
      List.sum_nil] at this ⊢
    omega

/-- An analysis tries the active rules. -/
theorem evaluations_analysis (e : Engine) (hne : text.isEmpty = false) :
    (e.analysis text).evaluations = e.registry.stats.active := by
  rw [analysis, analyze, hne]
  rfl

theorem counters_keep (e : Engine) (now : ℕ) (text : String) (services : List Service)
    (generation : ℕ) : (e.keep now text services generation).2.counters = e.counters := by
  rw [keep]
  split <;> rfl

/-- A look-up counts a hit or a miss, and the text is analyzed if nothing is known of it. -/
theorem counters_lookUp (e : Engine) (now : ℕ) (text : String) :
    (e.lookUp now text).2.counters =
        { e.counters with
          hits := e.counters.hits + if MatchStep.isHit ⟨e, now, text⟩ then 1 else 0
          misses := e.counters.misses + if MatchStep.isMiss ⟨e, now, text⟩ then 1 else 0 } ∧
      (e.lookUp now text).1.isNone = MatchStep.isAnalyzed ⟨e, now, text⟩ := by
  cases hempty : text.isEmpty with
  | true => simp [lookUp, MatchStep.isHit, MatchStep.isMiss, MatchStep.isLookUp,
      MatchStep.isAnalyzed, hempty]
  | false =>
    cases hon : e.config.cacheEnabled with
    | false => simp [lookUp, MatchStep.isHit, MatchStep.isMiss, MatchStep.isLookUp,
        MatchStep.isAnalyzed, hempty, hon]
    | true =>
      cases hget : e.registry.cache.get now (Fingerprint.ofText text) with
      | mk known cache =>
        cases known <;> simp [lookUp, MatchStep.isHit, MatchStep.isMiss, MatchStep.isLookUp,
          MatchStep.isAnalyzed, MatchStep.cached?, hempty, hon, hget, count, withCache]

/-- What is counted for a task that begins, or is outstanding then. -/
theorem countedRun_waiting (started : Engine) (hstems : Stems e started) (now : ℕ)
    (text : String) :
    CountedRun e ⟨[{ text := text }], started⟩ [⟨started, now, text⟩]
      ⟨[(started.advance now { text := text }).1], (started.advance now { text := text }).2⟩ := by
  obtain ⟨hcounters, hanalyzed⟩ := counters_lookUp started now text
  cases hlookUp : started.lookUp now text with
  | mk known looked =>
    rw [hlookUp] at hcounters hanalyzed
    dsimp only at hcounters
    cases known with
    | some services =>
      have hno : MatchStep.isAnalyzed ⟨started, now, text⟩ = false := hanalyzed.symm
      constructor <;> simp [advance, hlookUp, hcounters, conclude, Except.isOk, Except.toBool,
        count, MatchTask.isUncounted, outstanding, evaluationsOf, hno, List.countP_cons]
    | none =>
      have hyes : MatchStep.isAnalyzed ⟨started, now, text⟩ = true := hanalyzed.symm
      have hne : text.isEmpty = false := by
        rw [MatchStep.isAnalyzed, Bool.and_eq_true, Bool.not_eq_true'] at hyes
        exact hyes.1
      have hrules : (e.analysis text).evaluations = started.registry.stats.active := by
        rw [← hstems.analysis, evaluations_analysis started hne]
      constructor <;> simp [advance, hlookUp, hcounters, MatchTask.isUncounted, outstanding,
        evaluationsOf, hyes, hrules, MatchStep.activeRules, List.countP_cons]

/-- **One stage keeps the balance.** -/
theorem countedRun_advance (started : Engine) (hstems : Stems e started) (now : ℕ)
    (t : MatchTask) :
    CountedRun e ⟨[t], started⟩ (started.begun now t)
      ⟨[(started.advance now t).1], (started.advance now t).2⟩ := by
  obtain ⟨text, stage⟩ := t
  cases stage with
  | waiting => exact countedRun_waiting started hstems now text
  | unknown =>
    have hsame := congrArg Analysis.evaluations (hstems.analysis text)
    constructor <;> simp [advance, begun, evaluate, count, MatchTask.isUncounted, outstanding,
      evaluationsOf, hsame]
  | analyzed services generation =>
    have hcounters := counters_keep started now text services generation
    cases hkept : (started.keep now text services generation).1 with
    | ok _ => constructor <;> simp [advance, begun, hkept, hcounters, conclude, Except.map,
        Except.isOk, Except.toBool, count, MatchTask.isUncounted, outstanding, evaluationsOf]
    | error cause => constructor <;> simp [advance, begun, hkept, hcounters, conclude, Except.map,
        Except.isOk, Except.toBool, MatchTask.isUncounted, outstanding, evaluationsOf]
  | ended outcome => exact countedRun_refl e _

/-- **A run keeps the balance.** -/
theorem Runs.counted (h : Runs I g steps after) (hstems : Stems e g.engine) :
    CountedRun e g steps after := by
  induction h with
  | nil g => exact countedRun_refl e g
  | @cons started t before behind now steps after hnow _ ih =>
    have hone := (countedRun_advance started hstems now t).among before behind
    exact hone.trans (ih (hstems.trans (stems_advance started now t)))

/-- The counters when no task is under way, before and after a run. -/
theorem CountedRun.counted (h : CountedRun e g steps after)
    (hbefore : ∀ t ∈ g.tasks, t.isUncounted = false ∧ e.outstanding t = 0)
    (hafter : ∀ t ∈ after.tasks, e.outstanding t = 0) :
    Counted g.engine.counters steps (after.tasks.countP MatchTask.isUncounted)
      after.engine.counters where
  totalMatches := by
    have hnone : g.tasks.countP MatchTask.isUncounted = 0 :=
      List.countP_eq_zero.mpr fun t ht => by simp [(hbefore t ht).1]
    rw [h.totalMatches, hnone, Nat.add_zero]
  hits := h.hits
  misses := h.misses
  evaluations := by
    have hzero : (g.tasks.map e.outstanding).sum = 0 :=
      List.sum_eq_zero (List.forall_mem_map.mpr fun t ht => (hbefore t ht).2)
    have hzero' : (after.tasks.map e.outstanding).sum = 0 :=
      List.sum_eq_zero (List.forall_mem_map.mpr hafter)
    have hall := h.evaluations
    rwa [hzero, hzero', Nat.add_zero, Nat.add_zero] at hall

theorem outstanding_of_hasEnded {t : MatchTask} (h : t.hasEnded = true) (e : Engine) :
    e.outstanding t = 0 := by
  obtain ⟨text, stage⟩ := t
  cases stage with
  | ended outcome => rfl
  | _ => cases h

/-! ### The matches of a history -/

/-- The matches of an operation. -/
def opSteps (e : Engine) (now : Moment) : Operation → List MatchStep
  | .matchBanner banner => [⟨e, now.instant, banner⟩]
  | .matchResponse banner response => [⟨e, now.instant, searchedText banner response⟩]
  | .bestMatch banner => [⟨e, now.instant, banner⟩]
  | .matchBatch banners schedule => e.batchSteps now.instant banners schedule
  | _ => []

/-- The matches of a history. -/
def matchSteps (e : Engine) : List (Moment × Operation) → List MatchStep
  | [] => []
  | (now, op) :: rest => e.opSteps now op ++ (e.perform now op).2.matchSteps rest

variable {op : Operation} {history : List (Moment × Operation)} {m : MatchStep}

theorem perm_texts_opSteps (e : Engine) (now : Moment)
    (hpermits : op.isBatch = true → e.config.permits ≤ maxPermits) :
    ((e.opSteps now op).map MatchStep.text).Perm op.texts := by
  cases op with
  | matchBatch banners schedule => exact perm_texts_batchSteps (hpermits rfl) _ banners schedule
  | _ => exact .refl _

/-- **A history matches the texts that it looks for**, those of a batch in the order in which its
tasks begin. -/
theorem perm_texts_matchSteps (e : Engine)
    (hpermits : ∀ step ∈ history, step.2.isBatch = true → e.config.permits ≤ maxPermits) :
    ((e.matchSteps history).map MatchStep.text).Perm (searchedTexts history) := by
  induction history generalizing e with
  | nil => exact .refl _
  | cons step rest ih =>
    obtain ⟨hfirst, hrest⟩ := List.forall_mem_cons.mp hpermits
    have hsame := (run_settings e [step]).1
    rw [matchSteps, List.map_append, searchedTexts, List.flatMap_cons]
    exact (perm_texts_opSteps e step.1 hfirst).append
      (ih (e.perform step.1 step.2).2 (hsame.symm ▸ hrest))

theorem stems_of_mem_batchSteps {banners : List String} {schedule : List Turn} {now : ℕ}
    (hm : m ∈ e.batchSteps now banners schedule) : Stems e m.before := by
  by_cases hpermits : e.config.permits ≤ maxPermits
  · exact (runs_runBatch (I := fun _ => True) hpermits _ _ _ fun _ _ => trivial).stems_of_mem hm
  · rw [batchSteps, if_pos (Nat.lt_of_not_le hpermits)] at hm
    cases hm

theorem config_of_mem_opSteps {now : Moment} (hm : m ∈ e.opSteps now op) :
    m.before.config = e.config := by
  cases op with
  | matchBatch banners schedule => exact (stems_of_mem_batchSteps hm).config
  | matchBanner | matchResponse | bestMatch =>
    rw [opSteps, List.mem_singleton] at hm
    rw [hm]
  | _ => cases hm

theorem config_of_mem_matchSteps (hm : m ∈ e.matchSteps history) :
    m.before.config = e.config := by
  induction history generalizing e with
  | nil => cases hm
  | cons step rest ih =>
    rcases List.mem_append.mp hm with hm | hm
    · exact config_of_mem_opSteps hm
    · exact (ih hm).trans (run_settings e [step]).1

/-! ### The counters -/

/-- **What a match adds to the counters.** -/
theorem exists_counted_matchText (e : Engine) (now : ℕ) (text : String) :
    ∃ broken, Counted e.counters [⟨e, now, text⟩] broken (e.matchText now text).2.counters ∧
      (e.CanKeep now → broken = 0) := by
  have hruns := runs_complete (I := (· = now)) rfl e { text := text } [] []
  rw [complete_waiting] at hruns
  have hcounted := (hruns.counted (.refl e)).counted
    (List.forall_mem_singleton.mpr ⟨rfl, rfl⟩) (List.forall_mem_singleton.mpr rfl)
  refine ⟨_, hcounted, fun hkeep => ?_⟩
  obtain ⟨services, hservices⟩ : ∃ services, (e.matchText now text).1 = .ok services :=
    ((matching_whole (fun _ => True) e).matchText hkeep trivial (.refl e)).1
  rw [hservices]
  rfl

/-- **What a batch adds to the counters**, whatever turns its tasks take. -/
theorem exists_counted_matchBatch (e : Engine) (now : ℕ) (banners : List String)
    (schedule : List Turn) :
    ∃ broken, Counted e.counters (e.batchSteps now banners schedule) broken
        (e.matchBatch now banners schedule).2.counters ∧
      ((∀ t ∈ now :: schedule.map Turn.instant, e.CanKeep t) → broken = 0) := by
  by_cases hpermits : e.config.permits ≤ maxPermits
  · have hcounted := ((runs_runBatch (I := fun _ => True) hpermits now banners schedule
      fun _ _ => trivial).counted (.refl e)).counted
        (List.forall_mem_map.mpr fun _ _ => ⟨rfl, rfl⟩)
        fun t ht => outstanding_of_hasEnded (hasEnded_of_mem_runBatch ht) e
    rw [matchBatch_eq hpermits]
    refine ⟨_, hcounted, fun hkeep => List.countP_eq_zero.mpr fun t ht => ?_⟩
    obtain ⟨outcome, hstage, services, rfl⟩ := ((matching_whole (fun _ => True) e).runBatch
      (.refl e) hkeep (fun _ _ => trivial) hpermits).1 t ht
    rw [MatchTask.isUncounted, hstage]
    exact Bool.false_ne_true
  · rw [batchSteps, matchBatch, if_pos (Nat.lt_of_not_le hpermits),
      if_pos (Nat.lt_of_not_le hpermits)]
    exact ⟨0, counted_nil _, fun _ => rfl⟩

/-- An operation without matches leaves the counters alone. -/
theorem counters_perform_of_texts_eq_nil (hop : op.texts = []) (e : Engine) (now : Moment) :
    (e.perform now op).2.counters = e.counters := by
  have h : Invariant (fun _ => True) (fun _ => False) fun e' => e'.counters = e.counters :=
    { load := fun e' now rules _ he => he
      add := fun e' after now rule id _ he hok => by
        obtain ⟨-, -, c, -, -, rfl⟩ := add_eq_ok hok
        exact he
      remove := fun e' id he => he
      search := fun e' text c f ht _ _ => ht.elim
      clear := fun e' he => he
      sweep := fun e' now he => he }
  refine h.perform rfl trivial fun text ht => ?_
  rw [hop] at ht
  cases ht

/-- What an operation adds to the counters. -/
theorem exists_counted_perform (e : Engine) (now : Moment) (op : Operation) :
    ∃ broken, Counted e.counters (e.opSteps now op) broken (e.perform now op).2.counters ∧
      ((∀ t ∈ op.instants now.instant, e.CanKeep t) → broken = 0) := by
  have hmatch : ∀ text, now.instant ∈ op.instants now.instant →
      ∃ broken, Counted e.counters [⟨e, now.instant, text⟩] broken
          (e.matchText now.instant text).2.counters ∧
        ((∀ t ∈ op.instants now.instant, e.CanKeep t) → broken = 0) := by
    intro text hnow
    obtain ⟨broken, hcounted, hnone⟩ := e.exists_counted_matchText now.instant text
    exact ⟨broken, hcounted, fun hkeep => hnone (hkeep _ hnow)⟩
  cases op with
  | matchBanner banner => exact hmatch banner List.mem_cons_self
  | matchResponse banner response => exact hmatch _ List.mem_cons_self
  | bestMatch banner => exact hmatch banner List.mem_cons_self
  | matchBatch banners schedule => exact e.exists_counted_matchBatch now.instant banners schedule
  | _ =>
    refine ⟨0, ?_, fun _ => rfl⟩
    rw [counters_perform_of_texts_eq_nil rfl]
    exact counted_nil _

/-- **The counters count the matches of a history**, and none of these breaks down if all that is
found can be kept. -/
theorem counted_run (e : Engine) (history : List (Moment × Operation)) :
    ∃ broken, Counted e.counters (e.matchSteps history) broken (e.run history).2.counters ∧
      ((∀ step ∈ history, ∀ t ∈ step.2.instants step.1.instant, e.CanKeep t) → broken = 0) := by
  induction history generalizing e with
  | nil => exact ⟨0, counted_nil _, fun _ => rfl⟩
  | cons step rest ih =>
    obtain ⟨broken, hfirst, hnone⟩ := e.exists_counted_perform step.1 step.2
    obtain ⟨others, hrest, hnone'⟩ := ih (e.perform step.1 step.2).2
    refine ⟨broken + others, hfirst.trans hrest, fun hkeep => ?_⟩
    obtain ⟨hkeep, hkeep'⟩ := List.forall_mem_cons.mp hkeep
    have hsame : ∀ t, (e.perform step.1 step.2).2.CanKeep t ↔ e.CanKeep t := by
      intro t
      rw [CanKeep, CanKeep]
      exact (run_settings e [step]).1 ▸ run_ttl e [step] ▸ Iff.rfl
    rw [hnone hkeep, hnone' fun s hs t ht => (hsame t).mpr (hkeep' s hs t ht)]

/-! ### The cache -/

/-- The cache is sound, has the time to live and the capacity that the engine was started with,
and holds nothing if it is disabled. -/
structure Limited (ttl : ℕ) (e : Engine) : Prop where
  sound : Cache.Sound e.registry.cache
  ttl : e.registry.cache.ttl = ttl
  capacity : e.registry.cache.capacity = e.config.cacheSize
  disabled : e.config.cacheEnabled = false → e.registry.cache.entries = []

theorem limited_start (config : Config) (ttl : ℕ) : Limited ttl (start config ttl) where
  sound := Cache.Sound.empty { ttl := ttl, capacity := config.cacheSize }
  ttl := rfl
  capacity := rfl
  disabled := fun _ => rfl

variable {ttl : ℕ} {left : Engine}

/-- No request takes the cache out of its limits. -/
theorem Limited.of_requests (h : Limited ttl e) (hconfig : left.config = e.config)
    (requests : List (ℕ × Cache.Request))
    (hcache : left.registry.cache = e.registry.cache.run requests)
    (hdisabled : e.config.cacheEnabled = false → left.registry.cache.entries = []) :
    Limited ttl left := by
  obtain ⟨httl, hcapacity⟩ := Cache.run_limits e.registry.cache requests
  exact
    { sound := hcache ▸ h.sound.run requests
      ttl := by rw [hcache, httl, h.ttl]
      capacity := by rw [hcache, hcapacity, h.capacity, hconfig]
      disabled := fun hoff => hdisabled (hconfig ▸ hoff) }

theorem Limited.of_invalidate (h : Limited ttl e) (hconfig : left.config = e.config)
    (hcache : left.registry.cache = e.registry.cache.invalidate) : Limited ttl left :=
  h.of_requests hconfig [(0, .invalidate)] hcache fun _ => by rw [hcache]; rfl

/-- No history takes the cache out of its limits. -/
theorem invariant_limited (ttl : ℕ) :
    Invariant (fun _ => True) (fun _ => True) (Limited ttl) where
  load e now rules _ he := he.of_invalidate rfl rfl
  add e after now rule id _ he hok := by
    obtain ⟨-, -, c, -, -, rfl⟩ := add_eq_ok hok
    exact he.of_invalidate rfl rfl
  remove e id he := by
    rw [Engine.remove, Registry.remove_eq]
    split
    · exact he.of_invalidate rfl rfl
    · exact he
  search e text c f _ hc he := by
    cases hc with
    | none => exact he.of_requests rfl [] rfl he.disabled
    | read now hon =>
      refine he.of_requests rfl [(now, .get (Fingerprint.ofText text))] rfl fun hoff => ?_
      rw [hon] at hoff
      cases hoff
    | write now hon =>
      refine he.of_requests rfl [(now, .put (Fingerprint.ofText text) (e.analysis text).services
        e.registry.cache.generation)] rfl fun hoff => ?_
      rw [hon] at hoff
      cases hoff
  clear e he := he.of_invalidate rfl rfl
  sweep e now he := by
    refine he.of_requests rfl [(now, .sweep)] rfl fun hoff => ?_
    have hsub := Cache.sweep_entries_sublist e.registry.cache now
    rw [he.disabled hoff] at hsub
    exact List.sublist_nil.mp hsub

theorem limited_run (config : Config) (ttl : ℕ) (history : List (Moment × Operation)) :
    Limited ttl ((start config ttl).run history).2 :=
  (invariant_limited ttl).run (limited_start config ttl) history (fun _ _ => trivial)
    fun _ _ => trivial

/-! ### The numbers about an engine -/

/-- The numbers about an engine account for the matches that it has begun. -/
structure Accounts (config : Config) (steps : List MatchStep) (e : Engine) : Prop where
  /-- Matches that break down are not counted here. -/
  totalMatches_le : e.stats.counters.totalMatches ≤ steps.length
  hits : e.stats.counters.hits = steps.countP MatchStep.isHit
  lookUps : config.cacheEnabled = true → e.stats.counters.hits + e.stats.counters.misses =
    steps.countP fun m => !m.text.isEmpty
  evaluations : e.stats.counters.evaluations =
    ((steps.filter fun m => !m.text.isEmpty && !m.isHit).map MatchStep.activeRules).sum
  cached_le : e.stats.cachedEntries ≤ config.cacheSize
  disabled : config.cacheEnabled = false → e.stats.counters.hits = 0 ∧
    e.stats.counters.misses = 0 ∧ e.stats.cachedEntries = 0
  totalRules : e.stats.totalRules = e.rules.length

/-- Texts that are not empty are looked up if the cache is enabled, and no text is otherwise. -/
theorem countP_isLookUp_matchSteps (e : Engine) (history : List (Moment × Operation)) :
    (e.matchSteps history).countP MatchStep.isLookUp =
      if e.config.cacheEnabled then (e.matchSteps history).countP fun m => !m.text.isEmpty
      else 0 := by
  split
  · rename_i henabled
    refine List.countP_congr fun m hm => ?_
    rw [MatchStep.isLookUp, config_of_mem_matchSteps hm, henabled, Bool.true_and]
  · rename_i henabled
    refine List.countP_eq_zero.mpr fun m hm => ?_
    rw [MatchStep.isLookUp, config_of_mem_matchSteps hm, Bool.eq_false_of_not_eq_true henabled]
    exact Bool.false_ne_true

/-- A batch in which two tasks look the same banner up before either of them has written, then the
banner is found, an empty one is matched, and a rule is added. -/
def crossedHistory : List (Moment × Operation) :=
  loadHistory ++
    [(⟨1, "2024-01-01 00:00:00"⟩, .matchBatch ["SSH-2.0", "220 ftp", "SSH-2.0"]
        [⟨2, 2⟩, ⟨3, 0⟩, ⟨4, 2⟩, ⟨5, 1⟩, ⟨6, 0⟩, ⟨7, 2⟩, ⟨8, 0⟩]),
      (⟨9, "2024-01-01 00:00:00"⟩, .bestMatch "SSH-2.0"),
      (⟨10, "2024-01-01 00:00:00"⟩, .matchResponse "" (some [83, 83, 72])),
      (⟨11, "2024-01-01 00:00:00"⟩, .addSimple { service := "any", pattern := "." })]

/-- Both tasks with the same banner miss it. -/
example : ((start {} 100).run crossedHistory).2.counters = ⟨5, 1, 3, 3⟩ := by decide +kernel

/-- A batch with one banner. -/
def batchHistory : List (Moment × Operation) :=
  loadHistory ++ [(⟨1, "2024-01-01 00:00:00"⟩, .matchBatch ["SSH-2.0"] [])]

/-- A match of one banner. -/
def bannerHistory : List (Moment × Operation) :=
  loadHistory ++ [(⟨1, "2024-01-01 00:00:00"⟩, .matchBanner "SSH-2.0")]

end Engine
end BannerMatch
