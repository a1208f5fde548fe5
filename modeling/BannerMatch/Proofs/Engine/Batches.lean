import BannerMatch.Proofs.Engine.Matching

/-!
# Batches

The tasks of a batch share an engine, and their stages come in any order that the scheduler and the
permits allow. In all of these runs one of the tasks goes one stage further at a time (`Runs`), so
what holds of every batch is proved by induction over the stages: `Matching.runs` keeps what is
known of the tasks, and `Matching.matchBatch` and `Matching.exists_matchBatch` say what the services
of a batch are, and when there are some. The texts of a batch are matched once each
(`Runs.perm_texts`), and there are never more tasks under way than permits
(`countP_isUnderWay_turns_le`).

Banners that are matched one after the other (`matchEach`) are matched as by a batch whose tasks
take their turns in order (`matchBatch_inOrder`).
-/

namespace BannerMatch

/-- A match of a text at an instant, with the engine that it starts from. -/
structure MatchStep where
  before : Engine
  instant : ℕ
  text : String

namespace Engine

/-! ### Runs -/

/-- The match that a task begins when it goes on: only a task that is waiting begins one. -/
def begun (e : Engine) (now : ℕ) (t : MatchTask) : List MatchStep :=
  match t.stage with
  | .waiting => [⟨e, now, t.text⟩]
  | _ => []

/-- **A run of a group of tasks**, with the matches that begin: again and again one of the tasks
goes one stage further, at an instant with the property `I`. -/
inductive Runs (I : ℕ → Prop) : TaskGroup → List MatchStep → TaskGroup → Prop
  | nil (g : TaskGroup) : Runs I g [] g
  | cons {e : Engine} {t : MatchTask} {before behind : List MatchTask} {now : ℕ}
      {steps : List MatchStep} {after : TaskGroup} (hnow : I now)
      (hrest : Runs I ⟨before ++ (e.advance now t).1 :: behind, (e.advance now t).2⟩ steps after) :
      Runs I ⟨before ++ t :: behind, e⟩ (e.begun now t ++ steps) after

/-- The match that begins with a turn. -/
def turnSteps (permits : ℕ) (g : TaskGroup) (turn : Turn) : List MatchStep :=
  match g.tasks[turn.place]? with
  | none => []
  | some t => if g.underWay turn.place < permits then g.engine.begun turn.instant t else []

/-- The matches that begin with the turns. -/
def turnsSteps (permits : ℕ) (g : TaskGroup) : List Turn → List MatchStep
  | [] => []
  | turn :: rest => turnSteps permits g turn ++ turnsSteps permits (g.turn permits turn) rest

/-- The matches that begin when tasks are completed. -/
def completeSteps (e : Engine) (now : ℕ) : List MatchTask → List MatchStep
  | [] => []
  | t :: rest => e.begun now t ++ (e.complete now t).2.completeSteps now rest

/-- The matches of a batch, in the order in which they begin. -/
def batchSteps (e : Engine) (now : ℕ) (banners : List String) (schedule : List Turn) :
    List MatchStep :=
  if maxPermits < e.config.permits then []
  else
    let g := (e.batch banners).turns e.config.permits schedule
    turnsSteps e.config.permits (e.batch banners) schedule ++
      g.engine.completeSteps (lastInstant now schedule) g.tasks

variable {I : ℕ → Prop} {T : String → Prop} {P : Engine → Prop}
  {Q : String → Except Breakdown (List Service) → Prop} {e : Engine} {g after later : TaskGroup}
  {t : MatchTask} {before behind tasks : List MatchTask} {now : ℕ} {steps others : List MatchStep}
  {banners : List String} {schedule : List Turn}

theorem Runs.trans (h : Runs I g steps after) (h' : Runs I after others later) :
    Runs I g (steps ++ others) later := by
  induction h with
  | nil => exact h'
  | cons hnow _ ih =>
    rw [List.append_assoc]
    exact .cons hnow (ih h')

/-- One stage. -/
theorem runs_advance (hnow : I now) (e : Engine) (t : MatchTask) (before behind : List MatchTask) :
    Runs I ⟨before ++ t :: behind, e⟩ (e.begun now t)
      ⟨before ++ (e.advance now t).1 :: behind, (e.advance now t).2⟩ := by
  have h := Runs.cons hnow (.nil ⟨before ++ (e.advance now t).1 :: behind, (e.advance now t).2⟩)
  rwa [List.append_nil] at h

/-- A task that has gone on is not waiting any more. -/
theorem begun_advance (e later : Engine) (now instant : ℕ) (t : MatchTask) :
    later.begun instant (e.advance now t).1 = [] := by
  obtain ⟨text, stage⟩ := t
  cases stage with
  | waiting =>
    cases hlookUp : e.lookUp now text with
    | mk known looked => cases known <;> simp [advance, hlookUp, begun]
  | _ => rfl

theorem runs_complete (hnow : I now) (e : Engine) (t : MatchTask)
    (before behind : List MatchTask) :
    Runs I ⟨before ++ t :: behind, e⟩ (e.begun now t)
      ⟨before ++ (e.complete now t).1 :: behind, (e.complete now t).2⟩ := by
  have first := runs_advance hnow e t before behind
  have second := runs_advance hnow (e.advance now t).2 (e.advance now t).1 before behind
  have third := runs_advance hnow ((e.advance now t).2.advance now (e.advance now t).1).2
    ((e.advance now t).2.advance now (e.advance now t).1).1 before behind
  have hall := first.trans (second.trans third)
  rwa [begun_advance, begun_advance, List.append_nil, List.append_nil] at hall

theorem runs_completeAll (hnow : I now) (e : Engine) (before tasks : List MatchTask) :
    Runs I ⟨before ++ tasks, e⟩ (e.completeSteps now tasks)
      ⟨before ++ (e.completeAll now tasks).1, (e.completeAll now tasks).2⟩ := by
  induction tasks generalizing e before with
  | nil => exact .nil _
  | cons t rest ih =>
    have hrest := ih (e.complete now t).2 (before ++ [(e.complete now t).1])
    rw [List.append_assoc, List.append_assoc] at hrest
    exact (runs_complete hnow e t before rest).trans hrest

/-- A turn of a task that has a permit or gets one. -/
theorem turn_append_cons {permits place : ℕ} (hplace : before.length = place)
    (hpermit : (before.countP fun t => !t.hasEnded) < permits) (e : Engine) :
    TaskGroup.turn permits ⟨before ++ t :: behind, e⟩ ⟨now, place⟩ =
      ⟨before ++ (e.advance now t).1 :: behind, (e.advance now t).2⟩ := by
  subst hplace
  rw [TaskGroup.turn, TaskGroup.underWay]
  simp [hpermit]

/-- What a turn comes to: one of the tasks goes one stage further with a permit, or nothing is
done. -/
theorem turn_cases (permits : ℕ) (g : TaskGroup) (turn : Turn) :
    (g.turn permits turn = g ∧ turnSteps permits g turn = []) ∨
    ∃ before t behind, g = ⟨before ++ t :: behind, g.engine⟩ ∧
      (before.countP fun t => !t.hasEnded) < permits ∧
      g.turn permits turn =
        ⟨before ++ (g.engine.advance turn.instant t).1 :: behind,
          (g.engine.advance turn.instant t).2⟩ ∧
      turnSteps permits g turn = g.engine.begun turn.instant t := by
  obtain ⟨tasks, e⟩ := g
  cases htask : tasks[turn.place]? with
  | none => exact .inl ⟨by simp [TaskGroup.turn, htask], by simp [turnSteps, htask]⟩
  | some t =>
    obtain ⟨hplace, rfl⟩ := List.getElem?_eq_some_iff.mp htask
    by_cases hpermit : TaskGroup.underWay ⟨tasks, e⟩ turn.place < permits
    · right
      have hsplit : tasks =
          tasks.take turn.place ++ tasks[turn.place] :: tasks.drop (turn.place + 1) := by
        rw [List.cons_getElem_drop_succ, List.take_append_drop]
      refine ⟨tasks.take turn.place, tasks[turn.place], tasks.drop (turn.place + 1), ?_, hpermit,
        ?_, ?_⟩
      · rw [← hsplit]
      · have hlength : (tasks.take turn.place).length = turn.place := by
          rw [List.length_take, Nat.min_eq_left hplace.le]
        conv_lhs => rw [hsplit]
        exact turn_append_cons hlength hpermit e
      · simp [turnSteps, htask, hpermit]
    · exact .inl ⟨by simp [TaskGroup.turn, htask, hpermit], by simp [turnSteps, htask, hpermit]⟩

theorem runs_turn (permits : ℕ) (g : TaskGroup) {turn : Turn} (hturn : I turn.instant) :
    Runs I g (turnSteps permits g turn) (g.turn permits turn) := by
  rcases turn_cases permits g turn with ⟨hsame, hnone⟩ | ⟨before, t, behind, hg, -, hnext, hone⟩
  · rw [hsame, hnone]
    exact .nil g
  · rw [hnext, hone]
    have h := runs_advance hturn g.engine t before behind
    rwa [← hg] at h

theorem runs_turns (permits : ℕ) (g : TaskGroup) (hturns : ∀ turn ∈ schedule, I turn.instant) :
    Runs I g (turnsSteps permits g schedule) (g.turns permits schedule) := by
  rw [TaskGroup.turns]
  induction schedule generalizing g with
  | nil => exact .nil g
  | cons turn rest ih =>
    obtain ⟨hturn, hrest⟩ := List.forall_mem_cons.mp hturns
    exact (runs_turn permits g hturn).trans (ih _ hrest)

theorem lastInstant_mem (now : ℕ) (schedule : List Turn) :
    lastInstant now schedule ∈ now :: schedule.map Turn.instant :=
  List.getLastD_mem_cons

/-- **A batch is a run of its tasks.** -/
theorem runs_runBatch (hpermits : e.config.permits ≤ maxPermits) (now : ℕ) (banners : List String)
    (schedule : List Turn) (hinstants : ∀ t ∈ now :: schedule.map Turn.instant, I t) :
    Runs I (e.batch banners) (e.batchSteps now banners schedule)
      (e.runBatch now banners schedule) := by
  rw [batchSteps, if_neg (Nat.not_lt.mpr hpermits)]
  have hturns := runs_turns e.config.permits (e.batch banners) fun turn hturn =>
    hinstants _ (List.mem_cons_of_mem _ (List.mem_map_of_mem hturn))
  exact hturns.trans (runs_completeAll (hinstants _ (lastInstant_mem now schedule)) _ [] _)

/-! ### The tasks of a run -/

theorem Runs.map_text (h : Runs I g steps after) :
    after.tasks.map MatchTask.text = g.tasks.map MatchTask.text := by
  induction h with
  | nil => rfl
  | cons _ _ ih => simpa using ih

theorem map_text_batch (e : Engine) (banners : List String) :
    (e.batch banners).tasks.map MatchTask.text = banners := by
  rw [batch, List.map_map]
  exact List.map_id banners

/-- The text of a task, if it still waits to be matched. -/
def waitingText (t : MatchTask) : List String :=
  match t.stage with
  | .waiting => [t.text]
  | _ => []

theorem map_text_begun (e : Engine) (now : ℕ) (t : MatchTask) :
    (e.begun now t).map MatchStep.text = waitingText t := by
  obtain ⟨text, stage⟩ := t
  cases stage <;> rfl

/-- A run changes no more of the engine than matches do. -/
theorem Runs.stems (h : Runs I g steps after) : Stems g.engine after.engine := by
  induction h with
  | nil g => exact .refl g.engine
  | cons _ _ ih => exact (stems_advance _ _ _).trans ih

theorem Runs.stems_of_mem (h : Runs I g steps after) {m : MatchStep} (hm : m ∈ steps) :
    Stems g.engine m.before := by
  induction h with
  | nil => cases hm
  | cons _ _ ih =>
    rcases List.mem_append.mp hm with hm | hm
    · rw [begun] at hm
      split at hm
      · rw [List.mem_singleton.mp hm]
        exact .refl _
      · cases hm
    · exact (stems_advance _ _ _).trans (ih hm)

/-- **Each text that waits is matched once**, unless it waits still. -/
theorem Runs.perm_texts (h : Runs I g steps after) :
    (steps.map MatchStep.text ++ after.tasks.flatMap waitingText).Perm
      (g.tasks.flatMap waitingText) := by
  induction h with
  | nil g => exact .refl _
  | @cons e t before behind now steps after _ _ ih =>
    have hgone : waitingText (e.advance now t).1 = [] := by
      rw [← map_text_begun e now, begun_advance, List.map_nil]
    rw [List.flatMap_append, List.flatMap_cons, hgone, List.nil_append] at ih
    rw [List.map_append, map_text_begun, List.append_assoc, List.flatMap_append, List.flatMap_cons]
    exact (ih.append_left _).trans (by
      rw [← List.append_assoc, ← List.append_assoc]
      exact List.perm_append_comm.append_right _)

theorem hasEnded_of_mem_completeAll :
    ∀ t ∈ (e.completeAll now tasks).1, t.hasEnded = true := by
  induction tasks generalizing e with
  | nil => exact fun t ht => absurd ht List.not_mem_nil
  | cons t rest ih => exact List.forall_mem_cons.mpr ⟨hasEnded_complete e now t, ih⟩

/-- All tasks of a batch end. -/
theorem hasEnded_of_mem_runBatch (ht : t ∈ (e.runBatch now banners schedule).tasks) :
    t.hasEnded = true :=
  hasEnded_of_mem_completeAll t ht

/-- **A batch matches each of its banners once**, in whatever order. -/
theorem perm_texts_batchSteps (hpermits : e.config.permits ≤ maxPermits) (now : ℕ)
    (banners : List String) (schedule : List Turn) :
    ((e.batchSteps now banners schedule).map MatchStep.text).Perm banners := by
  have h := (runs_runBatch (I := fun _ => True) hpermits now banners schedule
    fun _ _ => trivial).perm_texts
  have hnone : (e.runBatch now banners schedule).tasks.flatMap waitingText = [] := by
    refine List.flatMap_eq_nil_iff.mpr fun t ht => ?_
    have hended := hasEnded_of_mem_runBatch ht
    obtain ⟨text, stage⟩ := t
    cases stage with
    | ended outcome => rfl
    | _ => cases hended
  have hall : (e.batch banners).tasks.flatMap waitingText = banners := by
    rw [batch, List.flatMap_map]
    exact List.flatMap_singleton' banners
  rwa [hnone, List.append_nil, hall] at h

/-! ### Permits -/

/-- Whether a task has begun and not ended. -/
def isUnderWay (t : MatchTask) : Bool :=
  match t.stage with
  | .unknown => true
  | .analyzed _ _ => true
  | _ => false

/-- Every task that is under way has a permit, if `unfinished` tasks come before all of these: not
all permits are needed for the tasks before it. -/
def Permitted (permits : ℕ) : ℕ → List MatchTask → Prop
  | _, [] => True
  | unfinished, t :: rest =>
      (isUnderWay t = true → unfinished < permits) ∧
        Permitted permits (unfinished + if t.hasEnded then 0 else 1) rest

variable {permits unfinished fewer : ℕ}

theorem hasEnded_of_isUnderWay (h : isUnderWay t = true) : t.hasEnded = false := by
  obtain ⟨text, stage⟩ := t
  cases stage with
  | unknown | analyzed => rfl
  | waiting | ended => cases h

/-- A task that has ended does not begin again. -/
theorem hasEnded_advance (h : t.hasEnded = true) (e : Engine) (now : ℕ) :
    (e.advance now t).1.hasEnded = true := by
  obtain ⟨text, stage⟩ := t
  cases stage with
  | ended outcome => rfl
  | _ => cases h

theorem Permitted.mono (h : Permitted permits unfinished tasks) (hle : fewer ≤ unfinished) :
    Permitted permits fewer tasks := by
  induction tasks generalizing unfinished fewer with
  | nil => trivial
  | cons t rest ih =>
    exact ⟨fun ht => Nat.lt_of_le_of_lt hle (h.1 ht), ih h.2 (Nat.add_le_add_right hle _)⟩

/-- As many tasks are under way as there are permits left, at most. -/
theorem Permitted.countP_le (h : Permitted permits unfinished tasks) :
    unfinished + tasks.countP isUnderWay ≤ max permits unfinished := by
  induction tasks generalizing unfinished with
  | nil => simp
  | cons t rest ih =>
    have hrest := ih h.2
    rw [List.countP_cons]
    by_cases ht : isUnderWay t = true
    · have hpermit := h.1 ht
      rw [hasEnded_of_isUnderWay ht, if_neg Bool.false_ne_true] at hrest
      rw [if_pos ht]
      omega
    · rw [if_neg ht]
      split at hrest <;> omega

/-- A task that has a permit may go on. -/
theorem Permitted.advance (h : Permitted permits unfinished (before ++ t :: behind))
    (hpermit : unfinished + (before.countP fun t => !t.hasEnded) < permits) (e : Engine)
    (now : ℕ) : Permitted permits unfinished (before ++ (e.advance now t).1 :: behind) := by
  induction before generalizing unfinished with
  | nil =>
    refine ⟨fun _ => by simpa using hpermit, h.2.mono (Nat.add_le_add_left ?_ _)⟩
    by_cases ht : t.hasEnded = true
    · rw [hasEnded_advance ht, ht]
    · rw [if_neg ht]
      split <;> omega
  | cons first before ih =>
    refine ⟨h.1, ih h.2 ?_⟩
    rw [List.countP_cons] at hpermit
    cases hfirst : first.hasEnded <;> simp [hfirst] at hpermit ⊢ <;> omega

theorem permitted_batch (permits : ℕ) (e : Engine) (banners : List String) (unfinished : ℕ) :
    Permitted permits unfinished (e.batch banners).tasks := by
  rw [batch]
  induction banners generalizing unfinished with
  | nil => trivial
  | cons banner rest ih => exact ⟨nofun, ih _⟩

theorem permitted_turns (h : Permitted permits 0 g.tasks) (schedule : List Turn) :
    Permitted permits 0 (g.turns permits schedule).tasks := by
  rw [TaskGroup.turns]
  induction schedule generalizing g with
  | nil => exact h
  | cons turn rest ih =>
    refine ih ?_
    rcases turn_cases permits g turn with ⟨hsame, -⟩ | ⟨before, t, behind, hg, hpermit, hnext, -⟩
    · rwa [hsame]
    · rw [hnext]
      rw [hg] at h
      exact h.advance (by rwa [Nat.zero_add]) g.engine turn.instant

/-- **Never more tasks are under way than there are permits**, whatever turns they take. -/
theorem countP_isUnderWay_turns_le (permits : ℕ) (e : Engine) (banners : List String)
    (schedule : List Turn) :
    ((e.batch banners).turns permits schedule).tasks.countP isUnderWay ≤ permits := by
  have h := (permitted_turns (permitted_batch permits e banners 0) schedule).countP_le
  rwa [Nat.zero_add, Nat.max_zero] at h

/-! ### What is known of the tasks -/

/-- What is known of a group of tasks that started from the engine `e`. -/
structure KnownGroup (T : String → Prop) (P : Engine → Prop)
    (Q : String → Except Breakdown (List Service) → Prop) (e : Engine) (g : TaskGroup) : Prop where
  tasks : ∀ t ∈ g.tasks, Known T Q e t
  shared : Shared P e g.engine

/-- **What is known of the tasks is known of them after a run.** -/
theorem Matching.runs (h : Matching I T P Q) (hruns : Runs I g steps after)
    (hg : KnownGroup T P Q e g) : KnownGroup T P Q e after := by
  induction hruns with
  | nil => exact hg
  | cons hnow _ ih =>
    obtain ⟨hbefore, ht, hbehind⟩ :=
      (List.forall_mem_append.mp hg.tasks).imp_right List.forall_mem_cons.mp
    obtain ⟨hnew, hshared⟩ := h.advance hnow ht hg.shared
    exact ih ⟨List.forall_mem_append.mpr ⟨hbefore, List.forall_mem_cons.mpr ⟨hnew, hbehind⟩⟩,
      hshared⟩

theorem knownGroup_batch (Q : String → Except Breakdown (List Service) → Prop) (he : P e)
    (htexts : ∀ text ∈ banners, T text) : KnownGroup T P Q e (e.batch banners) where
  tasks := List.forall_mem_map.mpr fun text ht => known_waiting Q e (htexts text ht)
  shared := ⟨.refl e, he⟩

/-- **What a batch keeps, and what its tasks come to**, whatever turns they take: every task ends,
each of them with an outcome for its banner. -/
theorem Matching.runBatch (h : Matching I T P Q) (he : P e)
    (hinstants : ∀ t ∈ now :: schedule.map Turn.instant, I t) (htexts : ∀ text ∈ banners, T text)
    (hpermits : e.config.permits ≤ maxPermits) :
    (∀ t ∈ (e.runBatch now banners schedule).tasks,
      ∃ outcome, t.stage = .ended outcome ∧ Q t.text outcome) ∧
    Shared P e (e.runBatch now banners schedule).engine := by
  have hknown := h.runs (runs_runBatch hpermits now banners schedule hinstants)
    (knownGroup_batch Q he htexts)
  refine ⟨fun t ht => ?_, hknown.shared⟩
  have hended := hasEnded_of_mem_runBatch ht
  cases hstage : t.stage with
  | ended outcome => exact ⟨outcome, rfl, (hknown.tasks t ht).ended outcome hstage⟩
  | _ =>
    rw [MatchTask.hasEnded, hstage] at hended
    cases hended

/-! ### The services of a batch -/

theorem services_eq_ok_iff {services : List Service} :
    t.services = .ok services ↔ t.stage = .ended (.ok services) := by
  rw [MatchTask.services]
  split
  · rename_i heq
    simp [heq]
  · rename_i hno
    simp only [reduceCtorEq, false_iff]
    exact hno services

theorem mapM_services_eq_ok_iff {found : List (List Service)} :
    tasks.mapM MatchTask.services = .ok found ↔
      List.Forall₂ (fun t services => t.stage = .ended (.ok services)) tasks found := by
  simp only [← services_eq_ok_iff]
  induction tasks generalizing found with
  | nil => simp [pure, Except.pure, eq_comm]
  | cons t rest ih =>
    rw [List.mapM_cons, List.forall₂_cons_left_iff]
    simp only [← ih]
    cases hfirst : t.services with
    | error f => simp [bind, Except.bind]
    | ok services =>
      cases hrest : rest.mapM MatchTask.services with
      | error f => simp [bind, Except.bind]
      | ok others => simp [bind, Except.bind, pure, Except.pure, eq_comm]

theorem eq_taskFailed_of_mapM {f : Failure} (h : tasks.mapM MatchTask.services = .error f) :
    f = .taskFailed := by
  induction tasks with
  | nil => cases h
  | cons t rest ih =>
    rw [List.mapM_cons] at h
    cases hfirst : t.services with
    | error f' =>
      rw [hfirst] at h
      cases h
      rw [MatchTask.services] at hfirst
      split at hfirst
      · cases hfirst
      · cases hfirst
        rfl
    | ok services =>
      rw [hfirst] at h
      cases hrest : rest.mapM MatchTask.services with
      | error f' =>
        rw [hrest] at h
        cases h
        exact ih hrest
      | ok others =>
        rw [hrest] at h
        cases h

/-- What comes of a batch that has permits enough. -/
theorem matchBatch_eq (hpermits : e.config.permits ≤ maxPermits) (now : ℕ) (banners : List String)
    (schedule : List Turn) :
    e.matchBatch now banners schedule =
      (.ok ((e.runBatch now banners schedule).tasks.mapM MatchTask.services),
        (e.runBatch now banners schedule).engine) :=
  if_neg (Nat.not_lt.mpr hpermits)

/-- **What can come of a batch**: services for its banners, or a task fails, or there cannot be so
many permits. -/
theorem matchBatch_cases (e : Engine) (now : ℕ) (banners : List String) (schedule : List Turn) :
    (∃ found, (e.matchBatch now banners schedule).1 = .ok (.ok found)) ∨
      (e.matchBatch now banners schedule).1 = .ok (.error .taskFailed) ∨
      (e.matchBatch now banners schedule).1 = .error .tooManyPermits ∧
        maxPermits < e.config.permits := by
  by_cases hpermits : e.config.permits ≤ maxPermits
  · rw [matchBatch_eq hpermits]
    cases hservices : (e.runBatch now banners schedule).tasks.mapM MatchTask.services with
    | ok found => exact .inl ⟨found, rfl⟩
    | error f =>
      obtain rfl := eq_taskFailed_of_mapM hservices
      exact .inr (.inl rfl)
  · have hmany := Nat.lt_of_not_le hpermits
    rw [matchBatch, if_pos hmany]
    exact .inr (.inr ⟨rfl, hmany⟩)

/-- **What the services of a batch are**, and what it keeps. -/
theorem Matching.matchBatch (h : Matching I T P Q) (he : P e)
    (hinstants : ∀ t ∈ now :: schedule.map Turn.instant, I t)
    (htexts : ∀ text ∈ banners, T text) :
    (∀ found, (e.matchBatch now banners schedule).1 = .ok (.ok found) →
      List.Forall₂ (fun text services => Q text (.ok services)) banners found) ∧
    Shared P e (e.matchBatch now banners schedule).2 := by
  by_cases hpermits : e.config.permits ≤ maxPermits
  · obtain ⟨htasks, hshared⟩ := h.runBatch he hinstants htexts hpermits
    rw [matchBatch_eq hpermits]
    refine ⟨fun found hfound => ?_, hshared⟩
    have hall := mapM_services_eq_ok_iff.mp (Except.ok.inj hfound)
    have hmap := (runs_runBatch hpermits now banners schedule hinstants).map_text
    rw [map_text_batch] at hmap
    rw [← hmap, List.forall₂_map_left_iff]
    refine ((List.forall₂_and_left _ _).mpr ⟨htasks, hall⟩).imp ?_
    rintro t services ⟨⟨outcome, hended, hQ⟩, hstage⟩
    rw [hstage] at hended
    cases hended
    exact hQ
  · rw [Engine.matchBatch, if_pos (Nat.lt_of_not_le hpermits)]
    exact ⟨fun found hfound => absurd hfound nofun, .refl e, he⟩

/-- **A batch has services** if there are permits enough and no match breaks down. -/
theorem Matching.exists_matchBatch (h : Matching I T P Q) (he : P e)
    (hinstants : ∀ t ∈ now :: schedule.map Turn.instant, I t)
    (htexts : ∀ text ∈ banners, T text) (hpermits : e.config.permits ≤ maxPermits)
    (hwhole : ∀ text cause, ¬ Q text (.error cause)) :
    ∃ found, (e.matchBatch now banners schedule).1 = .ok (.ok found) := by
  obtain ⟨htasks, -⟩ := h.runBatch he hinstants htexts hpermits
  obtain ⟨found, hfound⟩ : ∃ found, List.Forall₂
      (fun (t : MatchTask) services => t.stage = .ended (.ok services))
      (e.runBatch now banners schedule).tasks found := by
    generalize (e.runBatch now banners schedule).tasks = tasks at htasks
    induction tasks with
    | nil => exact ⟨[], .nil⟩
    | cons t rest ih =>
      obtain ⟨⟨outcome, hended, hQ⟩, hrest⟩ := List.forall_mem_cons.mp htasks
      obtain ⟨others, hothers⟩ := ih hrest
      cases outcome with
      | ok services => exact ⟨services :: others, .cons hended hothers⟩
      | error cause => exact absurd hQ (hwhole _ cause)
  refine ⟨found, ?_⟩
  rw [matchBatch_eq hpermits]
  exact congrArg Except.ok (mapM_services_eq_ok_iff.mpr hfound)

theorem Kept.matchBatch (h : Kept T P) (he : P e) (htexts : ∀ text ∈ banners, T text) (now : ℕ)
    (schedule : List Turn) : P (e.matchBatch now banners schedule).2 :=
  (h.matching.matchBatch he (fun _ _ => trivial) htexts).2.kept

theorem stems_matchBatch (e : Engine) (now : ℕ) (banners : List String) (schedule : List Turn) :
    Stems e (e.matchBatch now banners schedule).2 :=
  (kept_stems (fun _ => True) e).matchBatch (.refl e) (fun _ _ => trivial) now schedule

/-! ### One after the other -/

/-- Matches banners one after the other, each at its instant. -/
def matchEach (e : Engine) : List (ℕ × String) → List (Except Breakdown (List Service)) × Engine
  | [] => ([], e)
  | (now, banner) :: rest =>
      let first := e.matchBanner now banner
      let others := first.2.matchEach rest
      (first.1 :: others.1, others.2)

theorem stems_matchEach (e : Engine) (banners : List (ℕ × String)) :
    Stems e (e.matchEach banners).2 := by
  induction banners generalizing e with
  | nil => exact .refl e
  | cons b rest ih => exact (stems_matchText e b.1 b.2).trans (ih _)

/-- The turns of tasks that go on in order, each in one go at its instant, from a place on. -/
def inOrder (place : ℕ) : List ℕ → List Turn
  | [] => []
  | now :: rest => List.replicate 3 ⟨now, place⟩ ++ inOrder (place + 1) rest

/-- The tasks of banners that were matched one after the other. -/
def tasksAfter (e : Engine) : List (ℕ × String) → List MatchTask
  | [] => []
  | (now, banner) :: rest =>
      ⟨banner, .ended (e.matchBanner now banner).1⟩ :: (e.matchBanner now banner).2.tasksAfter rest

theorem countP_not_hasEnded (h : ∀ t ∈ tasks, t.hasEnded = true) :
    (tasks.countP fun t => !t.hasEnded) = 0 :=
  List.countP_eq_zero.mpr fun t ht => by simp [h t ht]

/-- Three turns in a row carry a task out, if the tasks before it have ended. -/
theorem turns_replicate {permits : ℕ} (hpermits : 0 < permits)
    (hended : ∀ t ∈ before, t.hasEnded = true) (e : Engine) (now : ℕ) (t : MatchTask)
    (behind : List MatchTask) :
    TaskGroup.turns permits ⟨before ++ t :: behind, e⟩ (List.replicate 3 ⟨now, before.length⟩) =
      ⟨before ++ (e.complete now t).1 :: behind, (e.complete now t).2⟩ := by
  have hone : ∀ (e : Engine) (t : MatchTask),
      TaskGroup.turn permits ⟨before ++ t :: behind, e⟩ ⟨now, before.length⟩ =
        ⟨before ++ (e.advance now t).1 :: behind, (e.advance now t).2⟩ :=
    fun e t => turn_append_cons rfl (by rwa [countP_not_hasEnded hended]) e
  rw [TaskGroup.turns, List.replicate_succ, List.replicate_succ, List.replicate_succ,
    List.foldl_cons, List.foldl_cons, List.foldl_cons, hone, hone, hone]
  rfl

/-- **Turns in order** match the banners one after the other. -/
theorem turns_inOrder {permits : ℕ} (hpermits : 0 < permits) (e : Engine)
    (before : List MatchTask) (hended : ∀ t ∈ before, t.hasEnded = true)
    (banners : List (ℕ × String)) :
    TaskGroup.turns permits ⟨before ++ (e.batch (banners.map Prod.snd)).tasks, e⟩
        (inOrder before.length (banners.map Prod.fst)) =
      ⟨before ++ e.tasksAfter banners, (e.matchEach banners).2⟩ := by
  induction banners generalizing e before with
  | nil => rfl
  | cons b rest ih =>
    obtain ⟨now, banner⟩ := b
    have hfirst := turns_replicate hpermits hended e now { text := banner }
      (e.batch (rest.map Prod.snd)).tasks
    rw [complete_waiting] at hfirst
    have hrest := ih (e.matchBanner now banner).2
      (before ++ [⟨banner, .ended (e.matchBanner now banner).1⟩])
      (List.forall_mem_append.mpr ⟨hended, List.forall_mem_singleton.mpr rfl⟩)
    rw [List.append_assoc, List.append_assoc, List.length_append, List.length_singleton] at hrest
    rw [TaskGroup.turns] at hfirst hrest ⊢
    rw [tasksAfter, matchEach]
    simp only [List.map_cons, inOrder, List.foldl_append]
    exact (congrArg (fun g => List.foldl (TaskGroup.turn permits) g
      (inOrder (before.length + 1) (rest.map Prod.fst))) hfirst).trans hrest

theorem hasEnded_of_mem_tasksAfter {banners : List (ℕ × String)} :
    ∀ t ∈ e.tasksAfter banners, t.hasEnded = true := by
  induction banners generalizing e with
  | nil => exact fun t ht => absurd ht List.not_mem_nil
  | cons b rest ih => exact List.forall_mem_cons.mpr ⟨rfl, ih⟩

theorem completeAll_of_hasEnded (h : ∀ t ∈ tasks, t.hasEnded = true) (e : Engine) (now : ℕ) :
    e.completeAll now tasks = (tasks, e) := by
  induction tasks with
  | nil => rfl
  | cons t rest ih =>
    obtain ⟨ht, hrest⟩ := List.forall_mem_cons.mp h
    rw [completeAll, complete_of_hasEnded ht, ih hrest]

/-- A task gives the services that its match has come to; a match that broke down makes it fail. -/
theorem mapM_services_tasksAfter (e : Engine) (banners : List (ℕ × String)) :
    (e.tasksAfter banners).mapM MatchTask.services =
      (e.matchEach banners).1.mapM fun outcome => outcome.mapError fun _ => .taskFailed := by
  induction banners generalizing e with
  | nil => rfl
  | cons b rest ih =>
    have hfirst : MatchTask.services ⟨b.2, .ended (e.matchBanner b.1 b.2).1⟩ =
        (e.matchBanner b.1 b.2).1.mapError fun _ => .taskFailed := by
      cases (e.matchBanner b.1 b.2).1 <;> rfl
    rw [tasksAfter, matchEach, List.mapM_cons, List.mapM_cons, hfirst, ih]

/-- **A batch whose tasks take their turns in order** matches the banners one after the other: it
gives what they give then, unless one of the matches breaks down, and leaves the same engine. -/
theorem matchBatch_inOrder (hpermits : e.config.permits ≤ maxPermits)
    (banners : List (ℕ × String)) (now : ℕ) :
    e.matchBatch now (banners.map Prod.snd) (inOrder 0 (banners.map Prod.fst)) =
      (.ok ((e.matchEach banners).1.mapM fun outcome => outcome.mapError fun _ => .taskFailed),
        (e.matchEach banners).2) := by
  have hpos : 0 < e.config.permits := Nat.lt_of_lt_of_le Nat.zero_lt_one (Nat.le_max_right _ _)
  have hturns := turns_inOrder hpos e [] (fun t ht => absurd ht List.not_mem_nil) banners
  have hdone : e.runBatch now (banners.map Prod.snd) (inOrder 0 (banners.map Prod.fst)) =
      ⟨e.tasksAfter banners, (e.matchEach banners).2⟩ := by
    rw [runBatch]
    refine (congrArg (TaskGroup.finish _) hturns).trans ?_
    rw [TaskGroup.finish, List.nil_append, completeAll_of_hasEnded hasEnded_of_mem_tasksAfter]
  rw [matchBatch_eq hpermits, hdone, mapM_services_tasksAfter]

end Engine
end BannerMatch
