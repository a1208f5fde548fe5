import BannerMatch.Proofs.Text.Words
import Mathlib.Data.List.TakeWhile
import Mathlib.Tactic

/-!
# Lists of words

The words of a text do not depend on white space at its ends (`words_trim`). The first of them is
the one that `splitWord` gives, and the others are those of what follows it (`words_eq_cons`).
-/

namespace BannerMatch.Text

/-- White space in front of the first word does not count. -/
theorem words_trimStart (cs : List Char) : words (trimStart cs) = words cs := by
  induction cs with
  | nil => rfl
  | cons c rest ih =>
    by_cases hc : isBlank c = true
    · rw [trimStart, List.dropWhile_cons_of_pos hc, ← trimStart, ih, words, words, wordsFrom,
        if_pos hc]
      rfl
    · rw [trimStart, List.dropWhile_cons_of_neg hc]

/-- Neither does white space behind the last word. -/
theorem wordsFrom_append_gap {gap : List Char} (hgap : IsBlankRun gap) (word cs : List Char) :
    wordsFrom word (cs ++ gap) = wordsFrom word cs := by
  induction cs generalizing word with
  | nil =>
    induction gap generalizing word with
    | nil => rfl
    | cons b gap ih =>
      obtain ⟨hb, hgap⟩ := List.forall_mem_cons.mp hgap
      have hnone := ih hgap []
      simp only [List.nil_append] at hnone ⊢
      simp only [wordsFrom, hb, if_true, hnone, List.isEmpty_nil]
  | cons c rest ih => simp only [List.cons_append, wordsFrom, ih]

theorem words_trimEnd (cs : List Char) : words (trimEnd cs) = words cs := by
  have hgap : IsBlankRun (cs.reverse.takeWhile isBlank).reverse := fun c hc =>
    List.mem_takeWhile_imp (List.mem_reverse.mp hc)
  have hcs : trimEnd cs ++ (cs.reverse.takeWhile isBlank).reverse = cs := by
    rw [trimEnd, ← List.reverse_append, List.takeWhile_append_dropWhile, List.reverse_reverse]
  conv_rhs => rw [← hcs, words, wordsFrom_append_gap hgap]
  rfl

theorem words_trim (cs : List Char) : words (trim cs) = words cs := by
  rw [trim, words_trimEnd, words_trimStart]

/-- A word that has been begun goes on to the next white space. -/
theorem wordsFrom_of_ne_nil {word : List Char} (hne : word ≠ []) (cs : List Char) :
    wordsFrom word cs = (word.reverse ++ (untilBlank cs).1) :: words (untilBlank cs).2 := by
  induction cs generalizing word with
  | nil => simp [wordsFrom, untilBlank, words, hne]
  | cons c rest ih =>
    cases hc : isBlank c with
    | true => simp [wordsFrom, untilBlank, words, hne, hc]
    | false =>
      simp only [wordsFrom, hc, Bool.false_eq_true, if_false]
      rw [ih (List.cons_ne_nil c word)]
      simp [untilBlank, hc]

/-- What is left after white space is dropped starts with the first word. -/
theorem flush_trimStart (cs : List Char) : Flush (trimStart cs) := by
  intro c hc
  have hhead := List.head?_dropWhile_not isBlank cs
  rw [← trimStart, Option.mem_def.mp hc] at hhead
  exact hhead

/-- **The first word of a text and the others**; where no first word is found there are none. -/
theorem words_eq (cs : List Char) :
    words cs =
      if (splitWord cs).1 = [] then [] else (splitWord cs).1 :: words (splitWord cs).2 := by
  rw [← words_trimStart]
  simp only [splitWord, words_trimStart (untilBlank (trimStart cs)).2]
  cases hstart : trimStart cs with
  | nil => rfl
  | cons c rest =>
    have hc : isBlank c = false := flush_trimStart cs c (by rw [hstart]; rfl)
    have hbegun : words (c :: rest) = wordsFrom [c] rest := by simp [words, wordsFrom, hc]
    rw [hbegun, wordsFrom_of_ne_nil (List.cons_ne_nil c [])]
    simp [untilBlank, hc]

theorem words_eq_cons {cs : List Char} (hne : (splitWord cs).1 ≠ []) :
    words cs = (splitWord cs).1 :: words (splitWord cs).2 := by
  rw [words_eq, if_neg hne]

/-- A trimmed text starts with the first character of its first word. -/
theorem head?_splitWord_trim (cs : List Char) :
    (splitWord (trim cs)).1.head? = (trim cs).head? := by
  have hflush : Flush (trim cs) := by
    intro c hc
    have hprefix : trimEnd (trimStart cs) <+: trimStart cs := by
      rw [trimEnd, ← List.reverse_suffix, List.reverse_reverse]
      exact List.dropWhile_suffix _
    obtain ⟨rest, hrest⟩ := List.head?_eq_some_iff.mp (Option.mem_def.mp hc)
    obtain ⟨dropped, hdropped⟩ := hprefix
    refine flush_trimStart cs c ?_
    rw [← hdropped, ← trim, hrest]
    rfl
  rw [splitWord, trimStart_of_flush hflush]
  cases hcs : trim cs with
  | nil => rfl
  | cons c rest =>
    have hc : isBlank c = false := hflush c (by rw [hcs]; rfl)
    simp [untilBlank, hc]

end BannerMatch.Text
