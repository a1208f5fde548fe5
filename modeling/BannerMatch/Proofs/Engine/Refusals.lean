import BannerMatch.Proofs.Engine.History
import BannerMatch.Proofs.Probe.Source

/-!
# Operations that are refused

An operation is refused if it fails, or if it is to remove an identifier that is not in use. A batch
that fails since one of its tasks did is another matter: its other tasks have matched their banners.
`Refused` lists when an operation is refused, at whatever depth: in a rule, in the registry, in a
source, in a decoder or in the scheduler. These are all cases (`refused_of_isRefusal`), and in each
of them the engine stays as it was: its rules, its cache, its counters and the identifiers that it
will assign (`perform_of_refused`). So later answers are those of the engine as it was before
(`refused_iff_and_run`), and refused operations may be left out of a history (`run_effective`).
-/

namespace BannerMatch

/-- The rule that an operation is to add. -/
def Operation.addedRule? : Operation → Option Rule
  | .add rule => some rule
  | .addSimple rule => some rule.toRule
  | _ => none

/-- Whether an answer says that nothing was done: the operation failed before it did anything, or
there was nothing to remove. -/
def Answer.isRefusal : Answer → Bool
  | .failed .taskFailed => false
  | .failed _ => true
  | .removed found => !found
  | _ => false

namespace Engine

/-- The operations that an engine refuses, with its answers. -/
inductive Refused (e : Engine) : Operation → Answer → Prop
  | invalidRule {op : Operation} {rule : Rule} {f : RuleFault} (hop : op.addedRule? = some rule)
      (hcheck : rule.check = .error f) : Refused e op (.failed (.invalidRule f))
  | idInUse {op : Operation} {rule : Rule} (hop : op.addedRule? = some rule)
      (hcheck : rule.check = .ok ()) (hused : rule.id ∈ e.registry.usedIds) :
      Refused e op (.failed (.duplicateId rule.id))
  /-- The source fails after some bytes. -/
  | unreadable (bytes : List UInt8) (reason : String) :
      Refused e (.loadProbes { bytes := bytes, failure? := some reason })
        (.failed (.unreadable reason))
  | badJson {text : List Char} {f : Json.Fault} (htext : RuleSet.ofJsonText text = .error f) :
      Refused e (.importJson text) (.failed (.json f))
  | badMessagePack {bytes : List UInt8} (hbytes : RuleSet.ofMessagePack? bytes = none) :
      Refused e (.importMessagePack bytes) (.failed .messagePack)
  | noScheduler : Refused e (.sweep none) (.failed .noScheduler)
  | unknownId {id : String} (hfree : id ∉ e.registry.usedIds) :
      Refused e (.remove id) (.removed false)

variable {e : Engine} {op : Operation} {answer : Answer}

/-! ### One operation -/

theorem perform_of_addedRule {rule : Rule} (hop : op.addedRule? = some rule) (now : Moment) :
    e.perform now op = (.ofResult .added (e.add now rule).1, (e.add now rule).2) := by
  cases op with
  | add _ => cases hop; rfl
  | addSimple added => cases hop; rfl
  | _ => cases hop

theorem add_of_invalid {rule : Rule} {f : RuleFault} (hcheck : rule.check = .error f)
    (now : Moment) : e.add now rule = (.error (.invalidRule f), e) := by
  rw [Engine.add, Registry.add, hcheck]

theorem add_of_used {rule : Rule} (hcheck : rule.check = .ok ())
    (hused : rule.id ∈ e.registry.usedIds) (now : Moment) :
    e.add now rule = (.error (.duplicateId rule.id), e) := by
  rw [Engine.add, Registry.add, hcheck]
  simp only [(Registry.has_iff _ _).mpr hused, if_true]

/-- **A refused operation leaves the engine as it was.** -/
theorem perform_of_refused (h : Refused e op answer) (now : Moment) :
    e.perform now op = (answer, e) := by
  cases h with
  | invalidRule hop hcheck => rw [perform_of_addedRule hop, add_of_invalid hcheck]; rfl
  | idInUse hop hcheck hused => rw [perform_of_addedRule hop, add_of_used hcheck hused]; rfl
  | unreadable bytes reason =>
    rw [perform, loadProbes, Probe.importSource_of_failing]
    rfl
  | badJson htext => rw [perform, importJson, htext, settle]
  | badMessagePack hbytes => rw [perform, importMessagePack, hbytes, settle]
  | noScheduler => rfl
  | unknownId hfree =>
    rw [perform, remove, Registry.remove_eq, if_neg fun h => hfree ((Registry.has_iff _ _).mp h)]

/-- A rule is added, or the operation is refused. -/
theorem exists_add_or_refused {rule : Rule} (hop : op.addedRule? = some rule) (now : Moment) :
    (∃ id after, e.add now rule = (.ok id, after)) ∨ ∃ answer, Refused e op answer := by
  rcases e.registry.add_cases now.stamp rule with
    ⟨f, hcheck, -⟩ | ⟨hcheck, hused, -⟩ | ⟨-, -, c, -, hadd⟩
  · exact .inr ⟨_, .invalidRule hop hcheck⟩
  · exact .inr ⟨_, .idInUse hop hcheck hused⟩
  · refine .inl ⟨c.1.id, (e.add now rule).2, Prod.ext ?_ rfl⟩
    rw [Engine.add, hadd]

theorem refused_of_addedRule {rule : Rule} (hop : op.addedRule? = some rule) (now : Moment)
    (hanswer : (e.perform now op).1.isRefusal = true) : Refused e op (e.perform now op).1 := by
  obtain ⟨id, after, hadd⟩ | ⟨answer, hrefused⟩ := exists_add_or_refused (e := e) hop now
  · rw [perform_of_addedRule hop, hadd] at hanswer
    cases hanswer
  · rw [perform_of_refused hrefused]
    exact hrefused

/-- What a match answers is no refusal. -/
theorem isRefusal_ofOutcome {α : Type} {f : α → Answer} {outcome : Except Breakdown α}
    (hf : ∀ a, outcome = .ok a → (f a).isRefusal = false) :
    (Answer.ofOutcome f outcome).isRefusal = false := by
  cases outcome with
  | ok a => exact hf a rfl
  | error cause => rfl

theorem isRefusal_matchBatch (e : Engine) (now : Moment) (banners : List String)
    (schedule : List Turn) :
    (e.perform now (.matchBatch banners schedule)).1.isRefusal = false := by
  refine isRefusal_ofOutcome fun result hresult => ?_
  rcases e.matchBatch_cases now.instant banners schedule with
    ⟨found, hfound⟩ | hfailed | ⟨hbroken, -⟩
  · rw [hfound] at hresult
    cases hresult
    rfl
  · rw [hfailed] at hresult
    cases hresult
    rfl
  · rw [hbroken] at hresult
    cases hresult

/-- **There are no other refusals.** -/
theorem refused_of_isRefusal {now : Moment} (hanswer : (e.perform now op).1.isRefusal = true) :
    Refused e op (e.perform now op).1 := by
  cases op with
  | add rule => exact refused_of_addedRule rfl now hanswer
  | addSimple rule => exact refused_of_addedRule rfl now hanswer
  | loadProbes source =>
    obtain ⟨bytes, failure?⟩ := source
    cases failure? with
    | some reason =>
      rw [perform_of_refused (.unreadable bytes reason)]
      exact .unreadable bytes reason
    | none =>
      rw [perform, loadProbes, Probe.importSource_of_readable] at hanswer
      cases hanswer
  | importJson text =>
    cases htext : RuleSet.ofJsonText text with
    | error f =>
      rw [perform_of_refused (.badJson htext)]
      exact .badJson htext
    | ok set =>
      rw [perform, importJson, htext] at hanswer
      cases hanswer
  | importMessagePack bytes =>
    cases hbytes : RuleSet.ofMessagePack? bytes with
    | none =>
      rw [perform_of_refused (.badMessagePack hbytes)]
      exact .badMessagePack hbytes
    | some set =>
      rw [perform, importMessagePack, hbytes] at hanswer
      cases hanswer
  | remove id =>
    by_cases hused : id ∈ e.registry.usedIds
    · rw [perform, remove, Registry.remove_eq, if_pos ((Registry.has_iff _ _).mpr hused)] at hanswer
      cases hanswer
    · rw [perform_of_refused (.unknownId hused)]
      exact .unknownId hused
  | sweep wakeups =>
    cases wakeups with
    | none => exact .noScheduler
    | some instants => cases hanswer
  | load rules => cases hanswer
  | loadBuiltin => cases hanswer
  | matchBanner banner =>
    rw [perform, isRefusal_ofOutcome fun _ _ => rfl] at hanswer
    cases hanswer
  | matchResponse banner response =>
    rw [perform, isRefusal_ofOutcome fun _ _ => rfl] at hanswer
    cases hanswer
  | bestMatch banner =>
    rw [perform, isRefusal_ofOutcome fun _ _ => rfl] at hanswer
    cases hanswer
  | matchBatch banners schedule =>
    rw [isRefusal_matchBatch] at hanswer
    cases hanswer
  | clearCache => cases hanswer

theorem Refused.isRefusal (h : Refused e op answer) : answer.isRefusal = true := by
  cases h <;> rfl

/-! ### Histories -/

/-- The steps of a history that are not refused. -/
def effective (e : Engine) : List (Moment × Operation) → List (Moment × Operation)
  | [] => []
  | (now, op) :: rest =>
      let first := e.perform now op
      if first.1.isRefusal then first.2.effective rest else (now, op) :: first.2.effective rest

/-- **Refused operations may be left out of a history**: the other answers and the engine after it
are the same. -/
theorem run_effective (e : Engine) (history : List (Moment × Operation)) :
    e.run (e.effective history) =
      ((e.run history).1.filter fun answer => !answer.isRefusal, (e.run history).2) := by
  induction history generalizing e with
  | nil => rfl
  | cons step rest ih =>
    rw [effective, run]
    cases hrefused : (e.perform step.1 step.2).1.isRefusal with
    | true =>
      have hkept : (e.perform step.1 step.2).2 = e :=
        congrArg Prod.snd (perform_of_refused (refused_of_isRefusal hrefused) step.1)
      rw [if_pos rfl, List.filter_cons_of_neg (by simp [hrefused]), hkept, ih]
    | false =>
      rw [if_neg Bool.false_ne_true, List.filter_cons_of_pos (by simp [hrefused]), run, ih]

/-- **What a refusal is**: an operation is refused exactly if it fails or removes nothing, a batch
with a task that failed apart. The engine is then the same as before, and every later history has
the answers and the end that it would have had without the operation. -/
theorem refused_iff_and_run (e : Engine) (now : Moment) (op : Operation) (answer : Answer) :
    (Refused e op answer ↔ (e.perform now op).1 = answer ∧ answer.isRefusal = true) ∧
    (Refused e op answer → (e.perform now op).2 = e ∧
      ∀ rest, e.run ((now, op) :: rest) = (answer :: (e.run rest).1, (e.run rest).2)) := by
  refine ⟨⟨fun h => ⟨?_, h.isRefusal⟩, ?_⟩, fun h => ⟨?_, fun rest => ?_⟩⟩
  · rw [perform_of_refused h now]
  · rintro ⟨rfl, hrefusal⟩
    exact refused_of_isRefusal hrefusal
  · rw [perform_of_refused h now]
  · rw [run, perform_of_refused h now]

/-- Two rules, and a banner that one of them finds. -/
def busyHistory : List (Moment × Operation) :=
  [(⟨0, "2024-01-01 00:00:00"⟩, .load
      [{ id := "ssh", service := "ssh", pattern := "SSH-" },
        { service := "ftp", pattern := "220" }]),
    (⟨1, "2024-01-01 00:00:01"⟩, .matchBanner "SSH-2.0")]

/-- One operation for each refusal. The source fails within its second line. -/
def refusals : List (Operation × Answer) :=
  [(.addSimple { service := " ", pattern := "x" }, .failed (.invalidRule .emptyService)),
    (.add { service := "any", pattern := "(" },
      .failed (.invalidRule (.invalidPattern .malformed))),
    (.add { id := "rule_1", service := "any", pattern := "x" }, .failed (.duplicateId "rule_1")),
    (.loadProbes { bytes := Text.encode "match a m|x|\nmat".toList, failure? := some "broken" },
      .failed (.unreadable "broken")),
    (.importJson "[1".toList, .failed (.json .unsuitable)),
    (.importMessagePack [0x81], .failed .messagePack),
    (.sweep none, .failed .noScheduler),
    (.remove "rule_2", .removed false)]

theorem run_refusals :
    let e := ((start {} 100).run busyHistory).2
    ∀ p ∈ refusals, Refused e p.1 p.2 ∧
      (e.perform ⟨2, "2024-01-01 00:00:02"⟩ p.1).2 = e ∧
      ∀ rest, e.run ((⟨2, "2024-01-01 00:00:02"⟩, p.1) :: rest) =
        (p.2 :: (e.run rest).1, (e.run rest).2) := by
  intro e p hp
  have hanswers : ∀ p ∈ refusals, (e.perform ⟨2, "2024-01-01 00:00:02"⟩ p.1).1 = p.2 ∧
      p.2.isRefusal = true := by decide +kernel
  obtain ⟨hiff, hrun⟩ := refused_iff_and_run e ⟨2, "2024-01-01 00:00:02"⟩ p.1 p.2
  have hrefused := hiff.mpr (hanswers p hp)
  exact ⟨hrefused, hrun hrefused⟩

end Engine
end BannerMatch
