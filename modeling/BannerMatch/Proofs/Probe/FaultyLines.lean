import BannerMatch.Proofs.Probe.Accounting
import BannerMatch.Proofs.Probe.Source

/-!
# Lines that nothing comes of

A line that is skipped or ignored leaves no trace but its remark, or its share in the count of
ignored lines. So if it is emptied, that is all that goes: the rules keep their numbers and their
probes, and the other remarks their lines (`Emptied`).

What such a line says is noted where it stands (`losesRemark_importFrom`, `losesCount_importFrom`),
and the notes on the lines before it go in front of that (`LosesRemark.note`, `LosesCount.note`).
-/

namespace BannerMatch.Probe

open BannerMatch.Text (trim)

/-- The report `r'` is `r` without the remark on one skipped line, the one with the number `n`. -/
def LosesRemark (n : ℕ) (r r' : Report) : Prop :=
  ∃ before remark after, remark.lineNumber = n ∧ r.skipped = before ++ remark :: after ∧
    r' = { r with skipped := before ++ after }

/-- The report `r'` is `r` with one ignored line less. -/
def LosesCount (r r' : Report) : Prop := r = { r' with ignoredLines := r'.ignoredLines + 1 }

/-! ### One line more in front -/

section Notes

variable {n : ℕ} {r r' : Report} (options : Options) (p : Place) (line : List Char) (o : Outcome)

theorem LosesRemark.note (h : LosesRemark n r r') :
    LosesRemark n (r.note options p line o) (r'.note options p line o) := by
  obtain ⟨before, remark, after, hnumber, hskipped, rfl⟩ := h
  cases o with
  | faulty f =>
    refine ⟨⟨p.lines + 1, line, f⟩ :: before, remark, after, hnumber, ?_, rfl⟩
    simp only [Report.note, hskipped, List.cons_append]
  | _ => exact ⟨before, remark, after, hnumber, hskipped, rfl⟩

theorem LosesCount.note (h : LosesCount r r') :
    LosesCount (r.note options p line o) (r'.note options p line o) := by
  rw [LosesCount] at h
  subst h
  cases o <;> rfl

end Notes

/-! ### Lines before and after -/

section Lines

variable (options : Options) {raw : List Char} (front back : List (List Char)) (p : Place)

theorem importFrom_cons (lines : List (List Char)) :
    importFrom options p (raw :: lines) =
      (importFrom options (p.after (Outcome.ofLine (trim raw))) lines).note options p (trim raw)
        (Outcome.ofLine (trim raw)) := rfl

/-- **A skipped line leaves a remark**, and nothing else that an empty line would not leave. -/
theorem losesRemark_importFrom {f : Fault} (hraw : Outcome.ofLine (trim raw) = .faulty f) :
    LosesRemark (p.lines + front.length + 1) (importFrom options p (front ++ raw :: back))
      (importFrom options p (front ++ [] :: back)) := by
  induction front generalizing p with
  | nil =>
    -- the place after the line is that after an empty one
    rw [List.nil_append, List.nil_append, importFrom_cons, hraw]
    exact ⟨[], ⟨p.lines + 1, trim raw, f⟩, _, rfl, rfl, rfl⟩
  | cons first front ih =>
    have hrest := ih (p.after (Outcome.ofLine (trim first)))
    rw [after_lines, Nat.add_right_comm p.lines] at hrest
    exact hrest.note options p _ _

/-- **An ignored line is counted**, and leaves nothing else that an empty line would not leave. -/
theorem losesCount_importFrom (hraw : Outcome.ofLine (trim raw) = .ignored) :
    LosesCount (importFrom options p (front ++ raw :: back))
      (importFrom options p (front ++ [] :: back)) := by
  induction front generalizing p with
  | nil =>
    rw [List.nil_append, List.nil_append, importFrom_cons, hraw]
    rfl
  | cons first front ih => exact (ih _).note options p _ _

end Lines

/-! ### Files -/

/-- What comes of a report when its line `line`, the one with the number `n`, is emptied, if nothing
came of that line. -/
structure Emptied (n : ℕ) (line : List Char) (r r' : Report) : Prop where
  skipped : (∃ remark ∈ r.skipped, remark.lineNumber = n) → LosesRemark n r r'
  ignored : isIgnored line = true → LosesCount r r'

/-- The line of a remark is a skipped one. -/
theorem exists_faulty_of_mem_skipped {options : Options} {ls : List (List Char)} {i : ℕ}
    {line : List Char} (hline : ls[i]? = some line)
    (h : ∃ remark ∈ (importFrom options {} ls).skipped, remark.lineNumber = i + 1) :
    ∃ f, Outcome.ofLine (trim line) = .faulty f := by
  obtain ⟨hi, hline⟩ := List.getElem?_eq_some_iff.mp hline
  obtain ⟨remark, hremark, hnumber⟩ := h
  have hmem := List.mem_map_of_mem (f := Remark.lineNumber) hremark
  rw [(counted_importFrom options {} ls).skipped, hnumber,
    List.mem_findIdxs_iff_getElem_sub_pos] at hmem
  obtain ⟨-, hlt, hskipped⟩ := hmem
  simp only [Nat.zero_add, Nat.add_sub_cancel, hline] at hskipped
  rw [isSkipped] at hskipped
  cases houtcome : Outcome.ofLine (trim line) with
  | faulty f => exact ⟨f, rfl⟩
  | _ => rw [houtcome] at hskipped; cases hskipped

theorem emptied_importFrom (options : Options) {ls : List (List Char)} {i : ℕ} {line : List Char}
    (hline : ls[i]? = some line) :
    Emptied (i + 1) line (importFrom options {} ls) (importFrom options {} (ls.set i [])) := by
  obtain ⟨hi, hget⟩ := List.getElem?_eq_some_iff.mp hline
  obtain ⟨front, back, hls, hlength, hset⟩ := @List.exists_of_set _ i [] _ hi
  rw [hget] at hls
  constructor
  · intro hremark
    obtain ⟨f, hf⟩ := exists_faulty_of_mem_skipped hline hremark
    have h := losesRemark_importFrom options front back {} hf
    rwa [← hls, ← hset, hlength, Nat.zero_add] at h
  · intro hignored
    rw [(agrees_ofLine line).ignored, decide_eq_true_iff] at hignored
    have h := losesCount_importFrom options front back {} hignored
    rwa [← hls, ← hset] at h

/-- **A bad line affects only itself**, both in a text and in the bytes of a source: once it is
emptied, the report lacks the remark on it, or counts it no more, and is otherwise the same. -/
theorem emptied_import (options : Options) (i : ℕ) (line : List Char) :
    (∀ text text' : List Char, (Text.lines text)[i]? = some line →
      Text.lines text' = (Text.lines text).set i [] →
      Emptied (i + 1) line (importText options text) (importText options text')) ∧
    (∀ bytes bytes' : List UInt8, (Text.byteLines bytes)[i]?.map Text.decode = some line →
      Text.byteLines bytes' = (Text.byteLines bytes).set i [] →
      ∃ r r', importSource options { bytes := bytes } = .ok r ∧
        importSource options { bytes := bytes' } = .ok r' ∧ Emptied (i + 1) line r r') := by
  constructor
  · intro text text' hline hlines
    rw [importText, importText, hlines]
    exact emptied_importFrom options hline
  · intro bytes bytes' hline hlines
    refine ⟨_, _, importSource_of_readable options bytes, importSource_of_readable options bytes',
      ?_⟩
    rw [hlines, List.map_set]
    refine emptied_importFrom options ?_
    rw [List.getElem?_map, hline]

/-- A file with a skipped line between two rules, and a line that is ignored at its end. -/
def mixedFile : List Char :=
  "Probe TCP Get q||\nmatch a m|x| p/A\r\nmatch b m|y\r\nsoftmatch c m=z=\nports 80".toList

theorem emptied_import_mixedFile :
    ((∃ remark ∈ (importText {} mixedFile).skipped, remark.lineNumber = 3) ∧
      LosesRemark 3 (importText {} mixedFile) (importText {}
        "Probe TCP Get q||\nmatch a m|x| p/A\r\n\nsoftmatch c m=z=\nports 80".toList)) ∧
    (isIgnored "ports 80".toList = true ∧
      LosesCount (importText {} mixedFile) (importText {}
        "Probe TCP Get q||\nmatch a m|x| p/A\r\nmatch b m|y\r\nsoftmatch c m=z=\n\n".toList)) := by
  have hskipped : ∃ remark ∈ (importText {} mixedFile).skipped, remark.lineNumber = 3 := by
    decide
  have hignored : isIgnored "ports 80".toList = true := by decide
  refine ⟨⟨hskipped, ?_⟩, hignored, ?_⟩
  · have hemptied := (emptied_import {} 2 "match b m|y".toList).1
    exact (hemptied _ _ (by decide) (by decide)).skipped hskipped
  · have hemptied := (emptied_import {} 4 "ports 80".toList).1
    exact (hemptied _ _ (by decide) (by decide)).ignored hignored

end BannerMatch.Probe
