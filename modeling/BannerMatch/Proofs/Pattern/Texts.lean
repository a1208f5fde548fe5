import BannerMatch.Pattern.Basic
import BannerMatch.Proofs.Pattern.Threads

/-!
# Searching for a text

The machine of a text finds the first place where the text occurs, and nothing else
(`Machine.IsText.finds_search`). It fits up to a number of bytes (`fits_ofText_iff`).

* In the program of a text, the label of an instruction is the length of the text that is still to
  come (`Code.Spells`). A thread that started at `j` is alive after `read` if the characters of
  `read` from `j` on are the start of the text (`starts`, `liveThreads`).
* The search is an induction over the characters to come. It carries that no occurrence ends before
  the place (`NoneEndsBefore`): one that ends there belongs to the first thread, which cuts off all
  others.
-/

namespace BannerMatch.Pattern

/-! ### The program of a text -/

/-- The instruction for a character of the text has the length of the text from there on as its
label. -/
structure Code.Spells (code : Code) (text : List Char) : Prop where
  size : code.size = text.length + 1
  accept : code[0]? = some .accept
  chars {c : Char} {rest : List Char} (h : c :: rest <:+ text) :
    code[rest.length + 1]? = some (.chars (.single c.toNat) rest.length)

theorem Code.spells_spell (text : List Char) :
    (Code.spell text (0, #[.accept])).1 = text.length ∧
      (Code.spell text (0, #[.accept])).2.Spells text := by
  induction text with
  | nil => exact ⟨rfl, rfl, rfl, fun h => by simp at h⟩
  | cons d text ih =>
    obtain ⟨hlabel, hcode⟩ := ih
    have hspell : Code.spell (d :: text) (0, #[.accept]) =
        (Code.spell text (0, #[.accept])).2.add (.chars (.single d.toNat) text.length) := by
      rw [← hlabel]
      rfl
    rw [hspell, Code.add]
    generalize (Code.spell text (0, #[.accept])).2 = code at hcode ⊢
    refine ⟨hcode.size, by rw [Array.size_push, hcode.size]; rfl, ?_, fun {c rest} h => ?_⟩
    · rw [Array.getElem?_push, if_neg (by rw [hcode.size]; omega), hcode.accept]
    · rw [Array.getElem?_push]
      rcases List.suffix_cons_iff.mp h with heq | hsuffix
      · cases heq
        rw [if_pos hcode.size.symm]
      · have hlt := hsuffix.length_le
        rw [List.length_cons] at hlt
        rw [if_neg (by rw [hcode.size]; omega), hcode.chars hsuffix]

namespace Code.Spells

variable {code : Code} {text : List Char} (h : code.Spells text)
include h

/-- The instruction at a label: the end of the text, or the character with the rest of that
length. -/
theorem cases_label {label : ℕ} {i : Instr} (hi : code[label]? = some i) :
    i = .accept ∨ ∃ c rest, c :: rest <:+ text ∧ i = .chars (.single c.toNat) rest.length := by
  cases label with
  | zero => exact .inl (Option.some.inj (hi.symm.trans h.accept))
  | succ k =>
    have hk : k + 1 < text.length + 1 := h.size ▸ (Array.getElem?_eq_some_iff.mp hi).1
    have hlength : (text.drop (text.length - (k + 1))).length = k + 1 := by
      rw [List.length_drop]
      omega
    obtain ⟨c, rest, heq⟩ := List.exists_cons_of_length_eq_add_one hlength
    have hsuffix : c :: rest <:+ text := heq ▸ List.drop_suffix _ _
    rw [heq, List.length_cons, Nat.add_right_cancel_iff] at hlength
    refine .inr ⟨c, rest, hsuffix, Option.some.inj ?_⟩
    rw [← h.chars hsuffix, hlength, hi]

theorem waits : code.Waits where
  waits hi := by
    rcases h.cases_label hi with rfl | ⟨c, rest, -, rfl⟩ <;> rfl
  next_lt hi := by
    rcases h.cases_label hi with heq | ⟨c, rest, hsuffix, heq⟩
    · cases heq
    · cases heq
      have hle := hsuffix.length_le
      rw [List.length_cons] at hle
      rw [h.size]
      omega

end Code.Spells

/-! ### Threads of a text -/

/-- The thread at the place `index` that started at `start` and has found the text so far. -/
def textThread (text : List Char) (index start : ℕ) : Thread :=
  ⟨text.length - (index - start), start, Array.replicate 1 start, Array.replicate 1 none⟩

/-- Where the threads have started that are alive after `read`, of those before `bound`. -/
def starts (text read : List Char) (bound : ℕ) : List ℕ :=
  (List.range bound).filter fun start => read.drop start <+: text

/-- The live threads that have started before `bound`, the first one first. -/
def liveThreads (text read : List Char) (bound : ℕ) : List Thread :=
  (starts text read bound).map (textThread text read.length)

variable {text read : List Char}

theorem mem_starts {bound start : ℕ} :
    start ∈ starts text read bound ↔ start < bound ∧ read.drop start <+: text := by
  simp [starts]

/-- A new attempt comes last. -/
theorem liveThreads_length_add_one :
    liveThreads text read (read.length + 1) =
      liveThreads text read read.length ++ [textThread text read.length read.length] := by
  simp [liveThreads, starts, List.range_succ, List.filter_append]

/-- A live thread has as much text before it as there is after what it has read. -/
theorem exists_of_mem_starts {start : ℕ} (h : start ∈ starts text read (read.length + 1)) :
    ∃ rest, rest <:+ text ∧ read.drop start ++ rest = text ∧
      (textThread text read.length start).label = rest.length := by
  obtain ⟨hlt, rest, hrest⟩ := mem_starts.mp h
  refine ⟨rest, ⟨_, hrest⟩, hrest, ?_⟩
  have hlength := congrArg List.length hrest
  rw [List.length_append, List.length_drop] at hlength
  show text.length - (read.length - start) = rest.length
  omega

/-- No two live threads have the same label. -/
theorem nodup_labels (text : List Char) {read : List Char} {bound : ℕ}
    (hbound : bound ≤ read.length + 1) :
    ((liveThreads text read bound).map Thread.label).Nodup := by
  rw [liveThreads, List.map_map]
  refine List.Nodup.map_on (fun j hj k hk heq => ?_) (List.nodup_range.filter _)
  obtain ⟨hjlt, hjprefix⟩ := mem_starts.mp hj
  obtain ⟨hklt, hkprefix⟩ := mem_starts.mp hk
  have hjle := hjprefix.length_le
  have hkle := hkprefix.length_le
  rw [List.length_drop] at hjle hkle
  have heq : text.length - (read.length - j) = text.length - (read.length - k) := heq
  omega

/-- What has been read goes on as the text does if the next character is the next one of it. -/
theorem drop_append_prefix_iff {start : ℕ} (hstart : start ≤ read.length) {rest : List Char}
    (hrest : read.drop start ++ rest = text) (c : Char) :
    (read ++ [c]).drop start <+: text ↔ [c] <+: rest := by
  rw [List.drop_append_of_le_length hstart, ← hrest, List.prefix_append_right_inj]

/-- A thread of a text goes on if the character is the next one of the text. -/
theorem step?_textThread {code : Code} (hcode : code.Spells text) (c : Char) {start : ℕ}
    (hstart : start ∈ starts text read (read.length + 1)) :
    (textThread text read.length start).step? code c =
      if (read ++ [c]).drop start <+: text then some (textThread text (read ++ [c]).length start)
      else none := by
  obtain ⟨rest, hsuffix, hrest, hlabel⟩ := exists_of_mem_starts hstart
  have hle : start ≤ read.length := Nat.le_of_lt_succ (mem_starts.mp hstart).1
  simp only [drop_append_prefix_iff hle hrest, Thread.step?, hlabel]
  cases rest with
  | nil => simp [hcode.accept]
  | cons d rest =>
    have hnext : (textThread text (read ++ [c]).length start).label = rest.length := by
      simp only [textThread, List.length_append, List.length_cons, List.length_nil] at hlabel ⊢
      omega
    simp only [List.length_cons, hcode.chars hsuffix, CodeSet.contains_single, beq_iff_eq,
      List.cons_prefix_cons, List.nil_prefix, and_true]
    rw [← hnext]
    rfl

/-- The threads that are alive after one more character, of those that have started. -/
theorem filterMap_step?_liveThreads {code : Code} (hcode : code.Spells text) (c : Char) :
    (liveThreads text read (read.length + 1)).filterMap (Thread.step? code c) =
      liveThreads text (read ++ [c]) (read ++ [c]).length := by
  have hstep := List.filterMap_congr
    fun start (hstart : start ∈ starts text read (read.length + 1)) =>
      step?_textThread hcode c hstart
  rw [liveThreads, List.filterMap_map, Function.comp_def, hstep, liveThreads,
    ← List.filterMap_eq_map, starts, starts, List.filterMap_filter, List.filterMap_filter,
    List.length_append, List.length_singleton]
  refine List.filterMap_congr fun start hstart => ?_
  have hle : start ≤ read.length := Nat.le_of_lt_succ (List.mem_range.mp hstart)
  by_cases hnext : (read ++ [c]).drop start <+: text
  · have hlive : read.drop start <+: text := by
      rw [List.drop_append_of_le_length hle] at hnext
      exact (List.prefix_append _ _).trans hnext
    simp [hnext, hlive]
  · simp [hnext]

/-! ### Occurrences -/

/-- The text occurs at a place, and not before it. -/
structure FirstAt (text cs : List Char) (place : ℕ) : Prop where
  here : text <+: cs.drop place
  not_before : ∀ earlier < place, ¬ text <+: cs.drop earlier

/-- What a search for a text gives: its first occurrence, with no group but the whole, or nothing if
it does not occur. -/
inductive Finds (text cs : List Char) : Option Found → Prop
  | first {start : ℕ} (h : FirstAt text cs start) :
      Finds text cs (some ⟨⟨start, start + text.length⟩, [some ⟨start, start + text.length⟩]⟩)
  | nothing (h : ¬ text <:+: cs) : Finds text cs none

theorem isInfix_iff_exists_drop {cs : List Char} :
    text <:+: cs ↔ ∃ start, start + text.length ≤ cs.length ∧ text <+: cs.drop start := by
  constructor
  · rintro ⟨before, after, rfl⟩
    refine ⟨before.length, by simp, ?_⟩
    rw [List.append_assoc, List.drop_left]
    exact List.prefix_append text after
  · rintro ⟨start, -, hprefix⟩
    exact hprefix.isInfix.trans (List.drop_suffix start cs).isInfix

/-- The part of an occurrence is the text. -/
theorem FirstAt.slice_eq {cs : List Char} {start : ℕ} (h : FirstAt text cs start) :
    Span.slice ⟨start, start + text.length⟩ cs = text := by
  rw [Span.slice, Nat.add_sub_cancel_left]
  exact (List.prefix_iff_eq_take.mp h.here).symm

theorem Finds.isSome_iff {cs : List Char} {found : Option Found} (h : Finds text cs found) :
    found.isSome = true ↔ text <:+: cs := by
  cases h with
  | first h => exact iff_of_true rfl (h.here.isInfix.trans (List.drop_suffix _ cs).isInfix)
  | nothing h => exact iff_of_false Bool.false_ne_true h

theorem Finds.exists_first {cs : List Char} {found : Found} (h : Finds text cs (some found)) :
    ∃ start, FirstAt text cs start ∧
      found = ⟨⟨start, start + text.length⟩, [some ⟨start, start + text.length⟩]⟩ := by
  cases h with
  | first h => exact ⟨_, h, rfl⟩

/-- No occurrence of the text ends before the place. -/
def NoneEndsBefore (text cs : List Char) (place : ℕ) : Prop :=
  ∀ start, start + text.length < place → ¬ text <+: cs.drop start

/-- What has been read ends with the text, from `start` on. -/
structure EndsFrom (text read : List Char) (start : ℕ) : Prop where
  length_eq : start + text.length = read.length
  drop_eq : read.drop start = text

/-- If no occurrence ends before the place, one that ends there is the first. -/
theorem EndsFrom.finds {rest : List Char} {start : ℕ} (h : EndsFrom text read start)
    (hnone : NoneEndsBefore text (read ++ rest) read.length) :
    Finds text (read ++ rest) (some ⟨⟨start, read.length⟩, [some ⟨start, read.length⟩]⟩) := by
  have hlength := h.length_eq
  have here : text <+: (read ++ rest).drop start := by
    rw [List.drop_append_of_le_length (by omega), h.drop_eq]
    exact List.prefix_append text rest
  rw [← hlength]
  exact .first ⟨here, fun earlier hlt => hnone earlier (by omega)⟩

/-- If none ends there either, none ends before the next place. -/
theorem NoneEndsBefore.add_one {rest : List Char}
    (hnone : NoneEndsBefore text (read ++ rest) read.length)
    (hends : ∀ start, ¬ EndsFrom text read start) :
    NoneEndsBefore text (read ++ rest) (read.length + 1) := by
  intro start hlt hprefix
  rcases Nat.lt_succ_iff_lt_or_eq.mp hlt with hlt | heq
  · exact hnone start hlt hprefix
  · have hlength : (read.drop start).length = text.length := by
      rw [List.length_drop]
      omega
    rw [List.drop_append_of_le_length (by omega), List.prefix_iff_eq_take, ← hlength,
      List.take_left] at hprefix
    exact hends start ⟨heq, hprefix.symm⟩

/-- If an occurrence ends at the place, its thread is the first one. -/
theorem EndsFrom.starts_eq_cons {start : ℕ} (h : EndsFrom text read start) :
    ∃ later, starts text read (read.length + 1) = start :: later := by
  have hlength := h.length_eq
  refine List.head?_eq_some_iff.mp ?_
  rw [starts, List.head?_filter, List.find?_range_eq_some]
  refine ⟨decide_eq_true (h.drop_eq ▸ List.prefix_rfl), List.mem_range.mpr (by omega),
    fun earlier hlt => ?_⟩
  rw [Bool.not_eq_true', decide_eq_false_iff_not]
  intro hprefix
  have hle := hprefix.length_le
  rw [List.length_drop] at hle
  omega

/-- If no occurrence ends at the place, no thread accepts. -/
theorem ne_accept_of_mem_liveThreads {code : Code} (hcode : code.Spells text)
    (hends : ∀ start, ¬ EndsFrom text read start) {t : Thread}
    (ht : t ∈ liveThreads text read (read.length + 1)) : code[t.label]? ≠ some .accept := by
  obtain ⟨start, hstart, rfl⟩ := List.mem_map.mp ht
  obtain ⟨rest, hsuffix, hrest, hlabel⟩ := exists_of_mem_starts hstart
  have hle : start ≤ read.length := Nat.le_of_lt_succ (mem_starts.mp hstart).1
  rw [hlabel]
  cases rest with
  | nil =>
    rw [List.append_nil] at hrest
    have hlength := congrArg List.length hrest
    rw [List.length_drop] at hlength
    exact absurd ⟨by omega, hrest⟩ (hends start)
  | cons c rest =>
    rw [List.length_cons, hcode.chars hsuffix]
    simp

/-! ### The search -/

/-- The machine of a text. -/
structure Machine.IsText (m : Machine) (text : List Char) : Prop where
  code : m.code.Spells text
  start : m.start = text.length
  groupCount : m.groupCount = 1

/-- The expression of a text. -/
def Expr.ofText : List Char → Expr
  | [] => .empty
  | c :: cs => .literal (c :: cs)

/-- Nothing has the same program as the text without characters. -/
theorem Machine.ofExpr_ofText (text : List Char) :
    Machine.ofExpr (.ofText text) = Machine.ofExpr (.literal text) := by
  cases text <;> rfl

theorem Machine.isText_ofText (text : List Char) :
    (Machine.ofExpr (.ofText text)).IsText text := by
  rw [Machine.ofExpr_ofText]
  exact ⟨(Code.spells_spell text).2, (Code.spells_spell text).1, rfl⟩

namespace Machine.IsText

variable {m : Machine} (hm : m.IsText text)
include hm

theorem attempt (place : Place) : m.attempt place = textThread text place.index place.index := by
  rw [Machine.attempt, textThread, hm.start, hm.groupCount, Nat.sub_self, Nat.sub_zero]

/-- The front with a new attempt has all live threads. -/
theorem join {front : Front} (place : Place) (hplace : place.index = read.length)
    (h : front.Holds read.length (liveThreads text read read.length)) :
    (m.join place front none).Holds read.length (liveThreads text read (read.length + 1)) := by
  have hlabel : (textThread text read.length read.length).label = text.length := by
    simp [textThread]
  obtain ⟨i, hi⟩ : ∃ i, m.code[text.length]? = some i :=
    ⟨_, Array.getElem?_eq_getElem (by rw [hm.code.size]; omega)⟩
  have hnodup := nodup_labels text (Nat.le_refl (read.length + 1))
  rw [liveThreads_length_add_one, List.map_append] at hnodup
  have hjoin : m.join place front none =
      front.admit m.code place (textThread text read.length read.length) := by
    rw [← hplace, ← hm.attempt]
    rfl
  rw [hjoin, liveThreads_length_add_one]
  rw [← hplace] at h hnodup hlabel ⊢
  exact h.append (hlabel.symm ▸ hi) (hm.code.waits.waits hi) fun hmem =>
    List.disjoint_of_nodup_append hnodup hmem (List.mem_singleton_self _)

/-- At a place either an occurrence ends, and its thread cuts off all others, or none does, and all
threads go on. -/
theorem settle {front : Front} (place : Place) (hplace : place.index = read.length)
    (h : front.Holds read.length (liveThreads text read (read.length + 1))) :
    (∃ start, EndsFrom text read start ∧
        m.settle place front none =
          ([], some ⟨⟨start, read.length⟩, [some ⟨start, read.length⟩]⟩)) ∨
      (∀ start, ¬ EndsFrom text read start) ∧
        m.settle place front none = (liveThreads text read (read.length + 1), none) := by
  rw [Machine.settle, h.threads]
  by_cases hends : ∃ start, EndsFrom text read start
  · obtain ⟨start, hstart⟩ := hends
    obtain ⟨later, hlater⟩ := hstart.starts_eq_cons
    have hlabel : (textThread text read.length start).label = 0 := by
      have hlength := hstart.length_eq
      show text.length - (read.length - start) = 0
      omega
    refine .inl ⟨start, hstart, ?_⟩
    rw [liveThreads, hlater, List.map_cons,
      untilAccept_of_accept (hlabel.symm ▸ hm.code.accept), hplace]
    rfl
  · have hends := not_exists.mp hends
    refine .inr ⟨hends, ?_⟩
    rw [untilAccept_of_forall_ne fun t => ne_accept_of_mem_liveThreads hm.code hends]

/-- **The search goes on to the first occurrence**, if none ends before the place. -/
theorem finds_searchFrom (read rest : List Char) {front : Front} {before : Option Char}
    (h : front.Holds read.length (liveThreads text read read.length))
    (hnone : NoneEndsBefore text (read ++ rest) read.length) :
    Finds text (read ++ rest) (m.searchFrom before read.length front none rest) := by
  induction rest generalizing read front before with
  | nil =>
    have hjoin := hm.join ⟨read.length, before, none⟩ rfl h
    rw [Machine.searchFrom]
    rcases hm.settle ⟨read.length, before, none⟩ rfl hjoin with
      ⟨start, hends, hsettle⟩ | ⟨hends, hsettle⟩
    · rw [hsettle]
      exact hends.finds hnone
    · rw [hsettle]
      refine .nothing fun hinfix => ?_
      obtain ⟨start, hle, hprefix⟩ := isInfix_iff_exists_drop.mp hinfix
      rw [List.append_nil] at hle
      exact hnone.add_one hends start (Nat.lt_succ_of_le hle) hprefix
  | cons c rest ih =>
    have hjoin := hm.join ⟨read.length, before, some c⟩ rfl h
    rw [Machine.searchFrom]
    rcases hm.settle ⟨read.length, before, some c⟩ rfl hjoin with
      ⟨start, hends, hsettle⟩ | ⟨hends, hsettle⟩
    · simp only [hsettle]
      exact hends.finds hnone
    · simp only [hsettle, Option.isSome_none, Bool.and_false, if_neg Bool.false_ne_true]
      have hthreads := Front.Holds.foldl_advance hm.code.waits c
        ⟨read.length + 1, some c, rest.head?⟩ (liveThreads text read (read.length + 1))
        hjoin.next (by
          rw [filterMap_step?_liveThreads hm.code]
          exact nodup_labels text (Nat.le_succ _))
      have hlater := hnone.add_one hends
      have hlength : read.length + 1 = (read ++ [c]).length := by simp
      rw [filterMap_step?_liveThreads hm.code, List.nil_append] at hthreads
      rw [List.append_cons, hlength] at hlater ⊢
      rw [hlength] at hthreads
      exact ih (read ++ [c]) hthreads hlater

/-- **A search for a text finds its first occurrence**, and nothing if it does not occur. -/
theorem finds_search (cs : List Char) : Finds text cs (m.search cs) :=
  hm.finds_searchFrom [] cs (.empty _ _) fun _ hlt => absurd hlt (Nat.not_lt_zero _)

end Machine.IsText

/-- An attempt that fails hides none that has started within it. -/
example : (Machine.ofExpr (.literal "aab".toList)).search "aaab".toList =
    some ⟨⟨1, 4⟩, [some ⟨1, 4⟩]⟩ := by decide

/-! ### Memory -/

theorem Tally.isFull_eq_false_iff (t : Tally) : t.isFull = false ↔ t.bytes ≤ maxBytes := by
  rw [Tally.isFull, decide_eq_false_iff_not, Nat.not_lt]

theorem backwardTally_literal (text : List Char) :
    (Expr.literal text).backwardTally = ⟨3 + Text.byteLength text + 1, 16⟩ := rfl

theorem forwardTally_literal (text : List Char) :
    (Expr.literal text).forwardTally = ⟨4 + Text.byteLength text + 2, 16⟩ := rfl

/-- The number of bytes of the longest text that fits: the forward automaton has a state for each
byte and six more. -/
def maxTextBytes : ℕ := (maxBytes - 16) / stateBytes - 6

theorem fits_ofText_iff (text : List Char) :
    (Expr.ofText text).fits = true ↔ Text.byteLength text ≤ maxTextBytes := by
  cases text with
  | nil => exact ⟨fun _ => Nat.zero_le _, fun _ => by decide⟩
  | cons c cs =>
    have hlist : (Expr.literal (c :: cs)).isLongList = false := rfl
    rw [Expr.ofText, Expr.fits, hlist, Bool.false_or, Bool.and_eq_true,
      Bool.not_eq_true', Bool.not_eq_true', Tally.isFull_eq_false_iff, Tally.isFull_eq_false_iff,
      backwardTally_literal, forwardTally_literal]
    simp only [Tally.bytes, maxTextBytes, maxBytes, stateBytes]
    omega

end BannerMatch.Pattern
