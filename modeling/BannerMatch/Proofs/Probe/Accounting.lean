import BannerMatch.Proofs.Probe.Rules
import BannerMatch.Proofs.Probe.Source
import BannerMatch.Proofs.Text.WordLists
import Mathlib.Tactic

/-!
# Accounting for the lines of a probe file

What a line is can be told from its words alone (`agrees_ofLine`): blank lines and comments are
`isSilent`, lines that start with no known word `isIgnored`, and `probeName?` is the name that a
probe line gives. Every other line is either skipped or gives a rule.

* `perm_findIdxs`: every line has exactly one of these five outcomes.
* `counted_importFrom`: the counts of a report and the line numbers of its remarks.
* `forall₂_standsFor`: each rule with the line that it comes from; its description names the last
  probe line before that one, and faulty probe lines do not count.

`accounted_importText` puts these together for a whole text.
-/

namespace BannerMatch.Probe

open BannerMatch.Text (words trim splitWord)

/-! ### Lines by their words -/

/-- Whether a line is blank or a comment. -/
def isSilent (raw : List Char) : Bool :=
  match words raw with
  | [] => true
  | word :: _ => word.head? = some '#'

/-- Whether a line starts with a word that means nothing here. -/
def isIgnored (raw : List Char) : Bool :=
  match words raw with
  | [] => false
  | word :: _ =>
      word.head? ≠ some '#' ∧ word ∉ ["Probe".toList, "match".toList, "softmatch".toList]

/-- The name among the words after the first one of a probe line. -/
def probeArgument? : List (List Char) → Option (List Char)
  | transport :: name :: _ =>
      if transport ∈ ["TCP".toList, "UDP".toList] then some name else none
  | _ => none

/-- The name on a probe line that gives a transport and a name. -/
def probeName? (raw : List Char) : Option (List Char) :=
  match words raw with
  | [] => none
  | word :: arguments => if word = "Probe".toList then probeArgument? arguments else none

/-- The name of an outcome that is a probe. -/
def Outcome.probe? : Outcome → Option (List Char)
  | .probe name => some name
  | _ => none

/-- The word that a match line starts with. -/
def Entry.directive (e : Entry) : List Char :=
  if e.soft then "softmatch".toList else "match".toList

/-- An outcome agrees with the words of its line. -/
structure Agrees (raw : List Char) (o : Outcome) : Prop where
  silent : isSilent raw = decide (o = .blank)
  ignored : isIgnored raw = decide (o = .ignored)
  probe : probeName? raw = o.probe?
  entry : ∀ e, o = .entry e → ∃ rest, words raw = e.directive :: e.service :: rest

theorem probe?_ofProbe_readProbe (cs : List Char) :
    (Outcome.ofProbe (readProbe cs)).probe? = probeArgument? (words cs) := by
  rw [readProbe]
  rcases words cs with _ | ⟨transport, _ | ⟨name, rest⟩⟩
  · rfl
  · rfl
  · simp only [probeArgument?]
    split
    · rename_i h
      rw [if_pos (by simpa using h)]
      rfl
    · rename_i h
      rw [if_neg (by simpa using h)]
      rfl

/-- A line that starts as a probe line does. -/
theorem agrees_ofProbe {raw rest : List Char} (hwords : words raw = "Probe".toList :: words rest) :
    Agrees raw (.ofProbe (readProbe rest)) where
  silent := by cases readProbe rest <;> simp [isSilent, hwords, Outcome.ofProbe]
  ignored := by cases readProbe rest <;> simp [isIgnored, hwords, Outcome.ofProbe]
  probe := by
    rw [probe?_ofProbe_readProbe, probeName?, hwords]
    exact if_pos rfl
  entry := by cases readProbe rest <;> simp [Outcome.ofProbe]

/-- A match line that can be read names its service after its first word. -/
theorem words_of_readEntry {soft : Bool} {cs : List Char} {e : Entry}
    (h : readEntry soft cs = .ok e) : e.soft = soft ∧ ∃ rest, words cs = e.service :: rest := by
  rw [readEntry] at h
  split at h
  · cases h
  · rename_i hservice
    split at h
    · cases h
    · split at h
      · cases h
      · cases h
        exact ⟨rfl, _, Text.words_eq_cons (by simpa using hservice)⟩

/-- A line that starts as a match line does. -/
theorem agrees_ofEntry (soft : Bool) {raw rest : List Char}
    (hwords : words raw = (if soft then "softmatch".toList else "match".toList) :: words rest) :
    Agrees raw (.ofEntry (readEntry soft rest)) where
  silent := by
    cases soft <;> cases readEntry _ rest <;> simp [isSilent, hwords, Outcome.ofEntry]
  ignored := by
    cases soft <;> cases readEntry _ rest <;> simp [isIgnored, hwords, Outcome.ofEntry]
  probe := by
    have hnone : (Outcome.ofEntry (readEntry soft rest)).probe? = none := by
      cases readEntry soft rest <;> rfl
    rw [hnone, probeName?, hwords]
    cases soft <;> rfl
  entry e he := by
    cases hread : readEntry soft rest with
    | error f => rw [hread] at he; cases he
    | ok e' =>
      rw [hread] at he
      cases he
      obtain ⟨hsoft, others, hrest⟩ := words_of_readEntry hread
      exact ⟨others, by rw [hwords, hrest, Entry.directive, hsoft]⟩

/-- **The outcome of a line agrees with its words.** -/
theorem agrees_ofLine (raw : List Char) : Agrees raw (Outcome.ofLine (trim raw)) := by
  have hwords : words raw = if (splitWord (trim raw)).1 = [] then [] else
      (splitWord (trim raw)).1 :: words (splitWord (trim raw)).2 := by
    rw [← Text.words_trim, Text.words_eq]
  have hhead := Text.head?_splitWord_trim raw
  rw [Outcome.ofLine]
  split
  · -- blank lines and comments
    rename_i hsilent
    rcases hsilent with hnil | hmark
    · rw [List.isEmpty_iff] at hnil
      rw [hnil] at hwords
      constructor
      · rw [isSilent, hwords]
        rfl
      · rw [isIgnored, hwords]
        rfl
      · rw [probeName?, hwords]
        rfl
      · exact fun e he => by cases he
    · rw [← hhead] at hmark
      obtain ⟨word, hword⟩ := List.head?_eq_some_iff.mp hmark
      rw [hword, if_neg (List.cons_ne_nil _ _)] at hwords
      constructor
      · simp [isSilent, hwords]
      · simp [isIgnored, hwords]
      · simp [probeName?, hwords, Outcome.probe?]
      · exact fun e he => by cases he
  · rename_i hloud
    obtain ⟨hne, hmark⟩ := not_or.mp hloud
    rw [← hhead] at hmark
    have hword : (splitWord (trim raw)).1 ≠ [] := by
      intro hnil
      rw [hnil, eq_comm, List.head?_nil, List.head?_eq_none_iff] at hhead
      exact hne (by rw [hhead]; rfl)
    rw [if_neg hword] at hwords
    simp only
    split
    · rename_i hprobe
      rw [hprobe] at hwords
      exact agrees_ofProbe hwords
    split
    · rename_i hmatch
      rw [hmatch] at hwords
      exact agrees_ofEntry false hwords
    split
    · rename_i hmatch
      rw [hmatch] at hwords
      exact agrees_ofEntry true hwords
    · rename_i hprobe hhard hsoft
      have hother : (splitWord (trim raw)).1 ∉
          ["Probe".toList, "match".toList, "softmatch".toList] := by
        simp only [List.mem_cons, List.not_mem_nil, or_false, not_or]
        exact ⟨hprobe, hhard, hsoft⟩
      constructor
      · rw [isSilent, hwords]
        exact decide_eq_false hmark
      · rw [isIgnored, hwords]
        exact decide_eq_true ⟨hmark, hother⟩
      · rw [probeName?, hwords]
        exact if_neg hprobe
      · exact fun e he => by cases he

/-! ### What a line adds to a report -/

/-- Whether an outcome is a fault. -/
def Outcome.isFaulty : Outcome → Bool
  | .faulty _ => true
  | _ => false

/-- Whether an outcome is a match line whose version information is faulty. -/
def Outcome.isDoubtful (o : Outcome) : Bool := o.matchLine?.any fun e => e.info.fault?.isSome

section Notes

variable (r : Report) (options : Options) (p : Place) (line : List Char) (o : Outcome)

theorem after_lines : (p.after o).lines = p.lines + 1 := by
  cases o <;> rfl

theorem after_rules : (p.after o).rules = p.rules + o.matchLine?.toList.length := by
  cases o <;> rfl

theorem after_probe : (p.after o).probe = o.probe?.or p.probe := by
  cases o <;> rfl

theorem note_linesRead : (r.note options p line o).linesRead = r.linesRead + 1 := by
  cases o <;> rfl

theorem note_ignoredLines :
    (r.note options p line o).ignoredLines = r.ignoredLines + if o = .ignored then 1 else 0 := by
  cases o <;> rfl

theorem note_probes : (r.note options p line o).probes = o.probe?.toList ++ r.probes := by
  cases o <;> rfl

theorem note_skipped :
    (r.note options p line o).skipped.map Remark.lineNumber =
      if o.isFaulty then (p.lines + 1) :: r.skipped.map Remark.lineNumber
      else r.skipped.map Remark.lineNumber := by
  cases o <;> rfl

theorem note_warnings :
    (r.note options p line o).warnings.map Remark.lineNumber =
      if o.isDoubtful then (p.lines + 1) :: r.warnings.map Remark.lineNumber
      else r.warnings.map Remark.lineNumber := by
  cases o with
  | entry e =>
    rcases Option.eq_none_or_eq_some e.info.fault? with hnone | ⟨f, hsome⟩
    · simp [Report.note, Outcome.isDoubtful, Outcome.matchLine?, hnone]
    · simp [Report.note, Outcome.isDoubtful, Outcome.matchLine?, hsome]
  | _ => rfl

theorem note_rules :
    (r.note options p line o).rules =
      o.matchLine?.toList.map (fun e => e.rule options (p.rules + 1) p.probe) ++ r.rules := by
  cases o <;> rfl

end Notes

/-! ### Counting lines -/

/-- Whether a line is skipped. -/
def isSkipped (raw : List Char) : Bool := (Outcome.ofLine (trim raw)).isFaulty

/-- Whether a line gives a rule. -/
def isKept (raw : List Char) : Bool := (Outcome.ofLine (trim raw)).matchLine?.isSome

/-- Whether a line gives a rule though its version information is faulty. -/
def isDoubtful (raw : List Char) : Bool := (Outcome.ofLine (trim raw)).isDoubtful

/-- The counts of a report on lines that stand at a place. -/
structure Counted (lines : List (List Char)) (p : Place) (r : Report) : Prop where
  linesRead : r.linesRead = lines.length
  ignoredLines : r.ignoredLines = lines.countP isIgnored
  probes : r.probes = lines.filterMap probeName?
  skipped : r.skipped.map Remark.lineNumber = lines.findIdxs isSkipped (p.lines + 1)
  warnings : r.warnings.map Remark.lineNumber = lines.findIdxs isDoubtful (p.lines + 1)

theorem counted_importFrom (options : Options) (p : Place) (lines : List (List Char)) :
    Counted lines p (importFrom options p lines) := by
  induction lines generalizing p with
  | nil => exact ⟨rfl, rfl, rfl, rfl, rfl⟩
  | cons raw rest ih =>
    have hagrees := agrees_ofLine raw
    have hrest := ih (p.after (Outcome.ofLine (trim raw)))
    rw [importFrom]
    constructor
    · rw [note_linesRead, hrest.linesRead, List.length_cons]
    · rw [note_ignoredLines, hrest.ignoredLines, List.countP_cons, hagrees.ignored]
      simp only [decide_eq_true_eq]
    · rw [note_probes, hrest.probes, List.filterMap_cons, hagrees.probe]
      cases (Outcome.ofLine (trim raw)).probe? <;> rfl
    · rw [note_skipped, hrest.skipped, after_lines, List.findIdxs_cons]
      rfl
    · rw [note_warnings, hrest.warnings, after_lines, List.findIdxs_cons]
      rfl

/-- **Every line has exactly one outcome.** -/
theorem perm_findIdxs (lines : List (List Char)) (start : ℕ) :
    (lines.findIdxs isSilent start ++ lines.findIdxs isIgnored start ++
      lines.findIdxs (fun raw => (probeName? raw).isSome) start ++
      lines.findIdxs isSkipped start ++ lines.findIdxs isKept start).Perm
      (List.range' start lines.length) := by
  induction lines generalizing start with
  | nil => exact .nil
  | cons raw rest ih =>
    obtain ⟨hsilent, hignored, hprobe, -⟩ := agrees_ofLine raw
    have hskipped : isSkipped raw = (Outcome.ofLine (trim raw)).isFaulty := rfl
    have hkept : isKept raw = (Outcome.ofLine (trim raw)).matchLine?.isSome := rfl
    have hrest := ih (start + 1)
    rw [List.perm_iff_count] at hrest ⊢
    intro n
    have hn := hrest n
    -- the number of this line stands in one of the five lists, the one of its outcome
    generalize Outcome.ofLine (trim raw) = o at hsilent hignored hprobe hskipped hkept
    simp only [List.findIdxs_cons, List.length_cons, List.range'_succ, List.count_append,
      hsilent, hignored, hprobe, hskipped, hkept] at hn ⊢
    rw [List.count_cons, ← hn]
    cases o <;>
      simp [Outcome.probe?, Outcome.isFaulty, Outcome.matchLine?, List.count_cons] <;> omega

theorem length_eq_add_countP (lines : List (List Char)) :
    lines.length = lines.countP isSilent + lines.countP isIgnored +
      (lines.filterMap probeName?).length + lines.countP isSkipped + lines.countP isKept := by
  have hlength := (perm_findIdxs lines 1).length_eq
  simp only [List.length_append, List.length_findIdxs, List.length_range'] at hlength
  rw [List.length_filterMap_eq_countP, hlength]

/-! ### The rules of a file -/

/-- The name on the last probe line. -/
def lastProbe (lines : List (List Char)) : Option (List Char) :=
  (lines.filterMap probeName?).getLast?

/-- What a description says about the probe of a rule. -/
def probeRemark : Option (List Char) → String
  | some name => " (probe " ++ String.ofList name ++ ")"
  | none => ""

/-- The rule stands for the match line with the number `n`, and is the `k`-th of its file. -/
def StandsFor (lines : List (List Char)) (n k : ℕ) (r : Rule) : Prop :=
  ∃ (raw : List Char) (soft : Bool) (service : List Char) (rest : List (List Char)),
    lines[n - 1]? = some raw ∧
    words raw = (if soft then "softmatch".toList else "match".toList) :: service :: rest ∧
    r.id = (if soft then "nmap_soft_" else "nmap_") ++ toString k ∧
    r.service = String.ofList service ∧
    r.description = "Nmap " ++ String.ofList service ++ " detection" ++
      probeRemark (lastProbe (lines.take (n - 1)))

theorem lastProbe_append_singleton (lines : List (List Char)) (raw : List Char) :
    lastProbe (lines ++ [raw]) = (probeName? raw).or (lastProbe lines) := by
  rw [lastProbe, List.filterMap_append, List.getLast?_append, lastProbe, List.filterMap_cons]
  cases probeName? raw <;> rfl

/-- **Each rule stands for its match line**: `rest` are the lines after the lines `before`, from
the place `p` on. -/
theorem forall₂_standsFor (options : Options) (before rest : List (List Char)) (p : Place)
    (hlines : p.lines = before.length) (hprobe : p.probe = lastProbe before) :
    List.Forall₂ (fun n r => StandsFor (before ++ rest) n.1 n.2 r)
      ((rest.findIdxs isKept (p.lines + 1)).zipIdx (p.rules + 1))
      (importFrom options p rest).rules := by
  induction rest generalizing before p with
  | nil => exact .nil
  | cons raw rest ih =>
    have hagrees := agrees_ofLine raw
    have hrest := ih (before ++ [raw]) (p.after (Outcome.ofLine (trim raw)))
      (by rw [after_lines, hlines, List.length_append]; rfl)
      (by rw [after_probe, hprobe, lastProbe_append_singleton, hagrees.probe])
    rw [List.append_assoc, List.singleton_append, after_lines, after_rules] at hrest
    rw [importFrom, note_rules, List.findIdxs_cons, isKept]
    cases hline : Outcome.ofLine (trim raw) with
    | entry e =>
      rw [hline] at hrest hagrees
      refine .cons ?_ hrest
      obtain ⟨others, hwords⟩ := hagrees.entry e rfl
      refine ⟨raw, e.soft, e.service, others, ?_, hwords, e.id_rule _ _ _, e.service_rule _ _ _,
        ?_⟩
      · simp [hlines]
      · rw [e.description_rule, hprobe]
        simp only [hlines, Nat.add_sub_cancel, List.take_left]
        rfl
    | _ => rw [hline] at hrest; exact hrest

/-! ### The account -/

/-- A report accounts for the lines of a file; `kept` are the numbers of the lines of its rules. -/
structure Accounted (lines : List (List Char)) (kept : List ℕ) (r : Report) : Prop where
  linesRead : r.linesRead = lines.length
  ignoredLines : r.ignoredLines = lines.countP isIgnored
  probes : r.probes = lines.filterMap probeName?
  /-- Every line number stands in one of five lists, and in no other. -/
  one_outcome : (lines.findIdxs isSilent 1 ++ lines.findIdxs isIgnored 1 ++
    lines.findIdxs (fun raw => (probeName? raw).isSome) 1 ++
    r.skipped.map Remark.lineNumber ++ kept).Perm (List.range' 1 r.linesRead)
  tally : r.linesRead = lines.countP isSilent + r.ignoredLines + r.probes.length +
    r.skipped.length + r.rules.length
  skipped_increasing : (r.skipped.map Remark.lineNumber).Pairwise (· < ·)
  warnings_increasing : (r.warnings.map Remark.lineNumber).Pairwise (· < ·)
  in_range : ∀ remark ∈ r.remarks, 1 ≤ remark.lineNumber ∧ remark.lineNumber ≤ r.linesRead
  disjoint : (r.skipped.map Remark.lineNumber).Disjoint (r.warnings.map Remark.lineNumber)
  warnings_kept : r.warnings.map Remark.lineNumber ⊆ kept
  kept_increasing : kept.Pairwise (· < ·)
  /-- The rules in the order of their lines, the `k`-th with `k` in its identifier. -/
  rules : List.Forall₂ (fun n r => StandsFor lines n.1 n.2 r) (kept.zipIdx 1) r.rules

/-- A doubtful line gives a rule. -/
theorem isKept_of_isDoubtful {raw : List Char} (h : isDoubtful raw = true) :
    isKept raw = true := by
  rw [isDoubtful, Outcome.isDoubtful, Option.any_eq_true] at h
  obtain ⟨e, he, -⟩ := h
  rw [isKept, Option.mem_def.mp he]
  rfl

/-- A line that gives a rule is not skipped. -/
theorem isSkipped_of_isKept {raw : List Char} (h : isKept raw = true) :
    isSkipped raw = false := by
  rw [isKept] at h
  rw [isSkipped]
  cases hline : Outcome.ofLine (trim raw) with
  | faulty f => rw [hline] at h; cases h
  | _ => rfl

theorem accounted_of_counted {lines : List (List Char)} {r : Report} (h : Counted lines {} r)
    (hrules : List.Forall₂ (fun n r => StandsFor lines n.1 n.2 r)
      ((lines.findIdxs isKept 1).zipIdx 1) r.rules) :
    Accounted lines (lines.findIdxs isKept 1) r := by
  have hskipped : r.skipped.map Remark.lineNumber = lines.findIdxs isSkipped 1 := h.skipped
  have hwarnings : r.warnings.map Remark.lineNumber = lines.findIdxs isDoubtful 1 := h.warnings
  have hbounds : ∀ (test : List Char → Bool) (n : ℕ), n ∈ lines.findIdxs test 1 →
      1 ≤ n ∧ n ≤ lines.length := by
    intro test n hn
    have hlt := List.lt_add_of_mem_findIdxs n hn
    exact ⟨List.ge_of_mem_findIdxs n hn, by omega⟩
  have hkept : lines.findIdxs isDoubtful 1 ⊆ lines.findIdxs isKept 1 := by
    intro n hn
    rw [List.mem_findIdxs_iff_getElem_sub_pos] at hn ⊢
    obtain ⟨hpos, hlt, hdoubtful⟩ := hn
    exact ⟨hpos, hlt, isKept_of_isDoubtful hdoubtful⟩
  constructor
  · exact h.linesRead
  · exact h.ignoredLines
  · exact h.probes
  · rw [hskipped, h.linesRead]
    exact perm_findIdxs lines 1
  · have hremarks : r.skipped.length = lines.countP isSkipped := by
      rw [← List.length_map Remark.lineNumber, hskipped, List.length_findIdxs]
    have hcount : r.rules.length = lines.countP isKept := by
      rw [← hrules.length_eq, List.length_zipIdx, List.length_findIdxs]
    rw [h.linesRead, h.ignoredLines, h.probes, hremarks, hcount, length_eq_add_countP]
  · rw [hskipped]
    exact List.pairwise_findIdxs
  · rw [hwarnings]
    exact List.pairwise_findIdxs
  · intro remark hremark
    have hnumber :
        remark.lineNumber ∈ lines.findIdxs isSkipped 1 ++ lines.findIdxs isDoubtful 1 := by
      rw [← hskipped, ← hwarnings, ← List.map_append]
      exact List.mem_map_of_mem hremark
    rw [h.linesRead]
    rcases List.mem_append.mp hnumber with hmem | hmem
    · exact hbounds _ _ hmem
    · exact hbounds _ _ hmem
  · rw [hskipped, hwarnings]
    intro n hfaulty hmem
    rw [List.mem_findIdxs_iff_getElem_sub_pos] at hfaulty hmem
    obtain ⟨-, hlt, hfaulty⟩ := hfaulty
    obtain ⟨-, hlt', hdoubtful⟩ := hmem
    rw [isSkipped_of_isKept (isKept_of_isDoubtful hdoubtful)] at hfaulty
    cases hfaulty
  · rw [hwarnings]
    exact hkept
  · exact List.pairwise_findIdxs
  · exact hrules

/-- **A report accounts for every line of its text**: each line has exactly one outcome, remarks
name the lines that they are about, and rules the probe that they belong to. -/
theorem accounted_importText (options : Options) (text : List Char) :
    ∃ kept, Accounted (Text.lines text) kept (importText options text) :=
  ⟨_, accounted_of_counted (counted_importFrom options {} (Text.lines text))
    (forall₂_standsFor options [] (Text.lines text) {} rfl rfl)⟩

end BannerMatch.Probe
