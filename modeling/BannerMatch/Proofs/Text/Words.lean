import BannerMatch.Text.Blank
import BannerMatch.Text.Lines

/-!
# Cutting texts at white space, at marks and at line feeds

A text that starts with white space is `Spaced`; the empty text counts too. What the cutting
functions of `Text.Blank` and `Text.Lines` do to a text put together from parts:

* `untilBlank_append` and `splitWord_append` give back a word in front of a spaced text;
* `trimStart_append` drops a run of white space;
* `splitAtChar_append` gives back what stands before the first mark;
* `lines_eq_singleton` finds one line in a text without line feeds.
-/

namespace BannerMatch.Text

/-! ### Words and gaps -/

/-- A text without white space. -/
def IsSolid (cs : List Char) : Prop := ∀ c ∈ cs, isBlank c = false

/-- A text of white space. -/
def IsBlankRun (cs : List Char) : Prop := ∀ c ∈ cs, isBlank c = true

/-- A text that is empty or starts with white space. -/
def Spaced (cs : List Char) : Prop := ∀ c ∈ cs.head?, isBlank c = true

/-- A text that is empty or starts with another character than white space. -/
def Flush (cs : List Char) : Prop := ∀ c ∈ cs.head?, isBlank c = false

instance (cs : List Char) : Decidable (IsSolid cs) :=
  List.decidableBAll (fun c => isBlank c = false) cs

instance (cs : List Char) : Decidable (IsBlankRun cs) :=
  List.decidableBAll (fun c => isBlank c = true) cs

/-- The visible characters of ASCII are no white space. -/
theorem isBlank_of_visible {c : Char} (hlow : 0x20 < c.toNat) (hhigh : c.toNat < 0x80) :
    isBlank c = false := by
  have h1 : ¬ c.toNat < 0x9 := by omega
  have h2 : ¬ c.toNat ≤ 0xD := by omega
  have h3 : ¬ c.toNat < 0x20 := by omega
  have h4 : ¬ c.toNat ≤ 0x20 := by omega
  have h5 : c.toNat < 0x85 := by omega
  simp [isBlank, blanks, CodeSet.contains, CodeSet.containsCode, CodeSet.inRanges, h1, h2, h3, h4,
    h5]

theorem spaced_nil : Spaced [] := by
  simp [Spaced]

theorem flush_nil : Flush [] := by
  simp [Flush]

theorem Spaced.append {gap cs : List Char} (hne : gap ≠ []) (hgap : IsBlankRun gap) :
    Spaced (gap ++ cs) := by
  obtain ⟨b, bs, rfl⟩ := List.exists_cons_of_ne_nil hne
  simpa [Spaced] using hgap b List.mem_cons_self

theorem flush_cons {c : Char} (hc : isBlank c = false) (cs : List Char) : Flush (c :: cs) := by
  simpa [Flush] using hc

theorem IsSolid.append {cs ds : List Char} (hcs : IsSolid cs) (hds : IsSolid ds) :
    IsSolid (cs ++ ds) := by
  intro c hc
  rcases List.mem_append.mp hc with hc | hc
  · exact hcs c hc
  · exact hds c hc

theorem Flush.append {word cs : List Char} (hne : word ≠ []) (hword : IsSolid word) :
    Flush (word ++ cs) := by
  obtain ⟨b, bs, rfl⟩ := List.exists_cons_of_ne_nil hne
  exact flush_cons (hword b List.mem_cons_self) _

/-- White space at the start of a text is dropped, and nothing after it. -/
theorem trimStart_append {gap cs : List Char} (hgap : IsBlankRun gap) (hcs : Flush cs) :
    trimStart (gap ++ cs) = cs := by
  rw [trimStart, List.dropWhile_append_of_pos hgap]
  cases cs with
  | nil => rfl
  | cons c rest => rw [List.dropWhile_cons_of_neg (by simp [hcs c rfl])]

theorem trimStart_of_flush {cs : List Char} (hcs : Flush cs) : trimStart cs = cs := by
  have hnil : IsBlankRun [] := by simp [IsBlankRun]
  simpa using trimStart_append hnil hcs

/-- A text with other characters than white space at both ends is trimmed already. -/
theorem trim_eq_self {cs : List Char} (hstart : Flush cs) (hend : Flush cs.reverse) :
    trim cs = cs := by
  rw [trim, trimStart_of_flush hstart, trimEnd, ← trimStart, trimStart_of_flush hend,
    List.reverse_reverse]

/-- What is no white space is not dropped from the start. -/
theorem mem_trimStart {c : Char} (hc : isBlank c = false) {cs : List Char} (hmem : c ∈ cs) :
    c ∈ trimStart cs := by
  rw [trimStart]
  induction cs with
  | nil => cases hmem
  | cons d rest ih =>
    by_cases hd : isBlank d
    · rw [List.dropWhile_cons_of_pos hd]
      rcases List.mem_cons.mp hmem with rfl | hmem
      · rw [hc] at hd
        cases hd
      · exact ih hmem
    · rwa [List.dropWhile_cons_of_neg hd]

/-- Neither is it dropped when both ends are trimmed. -/
theorem mem_trim {c : Char} (hc : isBlank c = false) {cs : List Char} (hmem : c ∈ cs) :
    c ∈ trim cs := by
  rw [trim, trimEnd, List.mem_reverse, ← trimStart]
  exact mem_trimStart hc (List.mem_reverse.mpr (mem_trimStart hc hmem))

/-- A text with a character other than white space does not count as blank. -/
theorem isAllBlank_of_mem {c : Char} (hc : isBlank c = false) {s : String} (hmem : c ∈ s.toList) :
    isAllBlank s = false := by
  rw [isAllBlank, List.isEmpty_eq_false_iff]
  exact List.ne_nil_of_mem (mem_trim hc hmem)

/-- A word in front of white space is cut off there. -/
theorem untilBlank_append {word cs : List Char} (hword : IsSolid word) (hcs : Spaced cs) :
    untilBlank (word ++ cs) = (word, cs) := by
  have hall : ∀ c ∈ word, (!isBlank c) = true := fun c hc => by simp [hword c hc]
  rw [untilBlank, List.takeWhile_append_of_pos hall, List.dropWhile_append_of_pos hall]
  cases cs with
  | nil => simp
  | cons c rest =>
    have hc : isBlank c = true := hcs c rfl
    simp [hc]

/-- **The first word of a text, in front of a gap.** -/
theorem splitWord_append {word gap cs : List Char} (hne : word ≠ []) (hword : IsSolid word)
    (hgap_ne : gap ≠ []) (hgap : IsBlankRun gap) (hcs : Flush cs) :
    splitWord (word ++ (gap ++ cs)) = (word, cs) := by
  rw [splitWord, trimStart_of_flush (Flush.append hne hword),
    untilBlank_append hword (Spaced.append hgap_ne hgap), trimStart_append hgap hcs]

/-! ### Marks and line feeds -/

/-- What stands before the first mark. -/
theorem splitAtChar_append {mark : Char} {cs : List Char} (hcs : mark ∉ cs) (rest : List Char) :
    splitAtChar mark (cs ++ mark :: rest) = some (cs, rest) := by
  induction cs with
  | nil => simp [splitAtChar]
  | cons c cs ih =>
    obtain ⟨hc, hcs⟩ := List.ne_and_not_mem_of_not_mem_cons hcs
    rw [List.cons_append, splitAtChar, if_neg (Ne.symm hc), ih hcs, Option.map_some]

/-- Elements that are no mark go to the line that is being read. -/
theorem markedLinesFrom_append {α : Type} {isMark : α → Bool} {front : List α}
    (hfront : ∀ a ∈ front, isMark a = false) (line rest : List α) :
    markedLinesFrom isMark line (front ++ rest) =
      markedLinesFrom isMark (front.reverse ++ line) rest := by
  induction front generalizing line with
  | nil => rfl
  | cons a front ih =>
    rw [List.cons_append, markedLinesFrom, if_neg (by simp [hfront a List.mem_cons_self]),
      ih fun b hb => hfront b (List.mem_cons_of_mem _ hb)]
    simp

/-- An input that is not empty and has no mark is one line. -/
theorem markedLinesFrom_eq_singleton {α : Type} {isMark : α → Bool} {input : List α}
    (hne : input ≠ []) (hinput : ∀ a ∈ input, isMark a = false) :
    markedLinesFrom isMark [] input = [input] := by
  have h := markedLinesFrom_append hinput [] []
  rw [List.append_nil, List.append_nil] at h
  rw [h, markedLinesFrom, if_neg (by simpa using hne), List.reverse_reverse]

/-- A line ends with the first mark. -/
theorem markedLinesFrom_mark {α : Type} {isMark : α → Bool} {front : List α}
    (hfront : ∀ a ∈ front, isMark a = false) {mark : α} (hmark : isMark mark = true)
    (rest : List α) :
    markedLinesFrom isMark [] (front ++ mark :: rest) =
      (front ++ [mark]) :: markedLinesFrom isMark [] rest := by
  rw [markedLinesFrom_append hfront, markedLinesFrom, if_pos hmark]
  simp

/-- Inputs line by line: the last line may lack its mark. -/
theorem lines_induction {α : Type} {isMark : α → Bool} {motive : List α → Prop}
    (last : ∀ front, (∀ a ∈ front, isMark a = false) → motive front)
    (line : ∀ front mark rest, (∀ a ∈ front, isMark a = false) → isMark mark = true →
      motive rest → motive (front ++ mark :: rest)) (input : List α) : motive input := by
  suffices h : ∀ front, (∀ a ∈ front, isMark a = false) → motive (front ++ input) from
    h [] (by simp)
  induction input with
  | nil =>
    intro front hfront
    rw [List.append_nil]
    exact last front hfront
  | cons a rest ih =>
    intro front hfront
    cases ha : isMark a with
    | true => exact line front a rest hfront ha (ih [] (by simp))
    | false =>
      rw [List.append_cons]
      refine ih (front ++ [a]) fun b hb => ?_
      rcases List.mem_append.mp hb with hb | hb
      · exact hfront b hb
      · rwa [List.mem_singleton.mp hb]

/-- Only a line feed at its end is taken off a line. -/
theorem unmarked_eq_self {α : Type} [DecidableEq α] {feed carriageReturn : α} {line : List α}
    (h : feed ∉ line) : unmarked feed carriageReturn line = line := by
  rw [unmarked.eq_def]
  split
  · rename_i hnil
    exact (List.reverse_eq_nil_iff.mp hnil).symm
  · rename_i a front hline
    have ha : a ∈ line := List.mem_reverse.mp (hline ▸ List.mem_cons_self)
    rw [if_pos (ne_of_mem_of_not_mem ha h)]

/-- A text without line feeds is one line. -/
theorem lines_eq_singleton {cs : List Char} (hne : cs ≠ []) (hcs : '\n' ∉ cs) :
    lines cs = [cs] := by
  have hmarks : ∀ c ∈ cs, (c == '\n') = false := fun c hc => by
    simpa using ne_of_mem_of_not_mem hc hcs
  rw [lines, markedLinesFrom_eq_singleton hne hmarks, List.map_singleton, unmarked_eq_self hcs]

end BannerMatch.Text
