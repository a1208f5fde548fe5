import BannerMatch.Pattern.Basic
import Mathlib.Tactic

/-!
# Groups lie within the match

Whatever the program is, a group matches a part of what the whole pattern matches, or takes no part:
`Machine.within_search`. A thread enters and leaves its groups at places that it comes to after its
start (`Thread.Within`), and no step of the search takes a thread back: a thread at one place moves
on to others there (`Thread.Within.moves`), or over a character to the next place
(`forall_within_advance`).

So the text of a group is a part of the text of the match, and this one of the text that was
searched: `PatternMatch.group?_isInfix` and `PatternMatch.matched_isInfix`.
-/

namespace BannerMatch

namespace Pattern

/-- The part `s` lies within the part `outer`. -/
structure Span.Within (s outer : Span) : Prop where
  start_le : outer.start ≤ s.start
  le : s.start ≤ s.stop
  stop_le : s.stop ≤ outer.stop

/-- A part of a part of a text is a part of the latter. -/
theorem Span.Within.slice_isInfix {s outer : Span} (h : s.Within outer) (cs : List Char) :
    s.slice cs <:+: outer.slice cs := by
  have hslice : s.slice cs =
      ((outer.slice cs).drop (s.start - outer.start)).take (s.stop - s.start) := by
    have hstart := h.start_le
    have hle := h.le
    have hstop := h.stop_le
    unfold Span.slice
    rw [List.drop_take, List.drop_drop, List.take_take]
    rw [show outer.start + (s.start - outer.start) = s.start by omega,
      show min (s.stop - s.start) (outer.stop - outer.start - (s.start - outer.start)) =
        s.stop - s.start by omega]
  rw [hslice]
  exact (List.take_prefix _ _).isInfix.trans (List.drop_suffix _ _).isInfix

/-! ### Threads -/

/-- The thread has entered its groups, and they have matched, between its start and a place with
`index` characters before it. -/
structure Thread.Within (t : Thread) (index : ℕ) : Prop where
  start_le : t.start ≤ index
  entered {group n : ℕ} (h : t.entered[group]? = some n) : t.start ≤ n ∧ n ≤ index
  groups {s : Span} (h : some s ∈ t.groups) : s.Within ⟨t.start, index⟩

namespace Thread.Within

variable {t : Thread} {index : ℕ} {place : Place}

theorem mono (h : t.Within index) {later : ℕ} (hle : index ≤ later) : t.Within later where
  start_le := h.start_le.trans hle
  entered hn := ⟨(h.entered hn).1, (h.entered hn).2.trans hle⟩
  groups hs := ⟨(h.groups hs).start_le, (h.groups hs).le, (h.groups hs).stop_le.trans hle⟩

/-- The label does not matter. -/
theorem at_label (h : t.Within index) (label : ℕ) : Thread.Within { t with label := label } index :=
  ⟨h.start_le, h.entered, h.groups⟩

/-- A group is entered here. -/
theorem enter (h : t.Within place.index) (group : ℕ) :
    Thread.Within { t with entered := t.entered.setIfInBounds group place.index } place.index where
  start_le := h.start_le
  entered {i n} hn := by
    rw [Array.getElem?_setIfInBounds] at hn
    split_ifs at hn
    · cases hn
      exact ⟨h.start_le, le_rfl⟩
    · exact h.entered hn
  groups := h.groups

/-- A group that is left here was entered after the start of the thread. -/
theorem leave (h : t.Within place.index) (group : ℕ) :
    Thread.Within { t with
      groups := t.groups.setIfInBounds group (some ⟨t.entered.getD group t.start, place.index⟩) }
      place.index where
  start_le := h.start_le
  entered := h.entered
  groups {s} hs := by
    have hentered : t.start ≤ t.entered.getD group t.start ∧
        t.entered.getD group t.start ≤ place.index := by
      rw [Array.getD_eq_getD_getElem?]
      cases hn : t.entered[group]? with
      | none => exact ⟨le_rfl, h.start_le⟩
      | some n => exact h.entered hn
    rcases Array.mem_or_eq_of_mem_setIfInBounds hs with hs | heq
    · exact h.groups hs
    · cases heq
      exact ⟨hentered.1, hentered.2, le_rfl⟩

/-- **No instruction takes a thread back.** -/
theorem moves (h : t.Within place.index) (i : Instr) :
    ∀ u ∈ t.moves place i, u.Within place.index := by
  cases i with
  | accept => simp [Thread.moves]
  | chars s next => simp [Thread.moves]
  | look l next =>
    simp only [Thread.moves]
    split
    · simpa using h.at_label next
    · simp
  | branch first second => simpa [Thread.moves] using ⟨h.at_label first, h.at_label second⟩
  | enter group next => simpa [Thread.moves] using (h.enter group).at_label next
  | leave group next => simpa [Thread.moves] using (h.leave group).at_label next

end Thread.Within

/-! ### Fronts -/

/-- All threads of the front are within their starts and a place. -/
def Front.Within (front : Front) (index : ℕ) : Prop := ∀ t ∈ front.threads, t.Within index

variable {code : Code} {front : Front}

theorem Front.within_empty (code : Code) (index : ℕ) : (Front.empty code).Within index := by
  intro t ht
  simp [Front.empty] at ht

theorem Front.within_next (front : Front) (index : ℕ) : front.next.Within index := by
  intro t ht
  simp [Front.next] at ht

/-- Following threads at a place lists threads that are within it. -/
theorem within_follow {place : Place} (fuel : ℕ) {threads : List Thread}
    (hthreads : ∀ t ∈ threads, t.Within place.index) (hfront : front.Within place.index) :
    (follow code place fuel threads front).Within place.index := by
  induction fuel generalizing threads front with
  | zero => exact hfront
  | succ fuel ih =>
    cases threads with
    | nil => exact hfront
    | cons t others =>
      obtain ⟨ht, hothers⟩ := List.forall_mem_cons.mp hthreads
      unfold follow
      split
      · exact ih hothers hfront
      · dsimp only
        split
        · exact ih hothers hfront
        · rename_i i _
          apply ih (List.forall_mem_append.mpr ⟨ht.moves i, hothers⟩)
          split
          · intro u hu
            rcases Array.mem_push.mp hu with hu | rfl
            · exact hfront u hu
            · exact ht
          · exact hfront

theorem Front.Within.admit {place : Place} (hfront : front.Within place.index) {t : Thread}
    (ht : t.Within place.index) : Front.Within ( front.admit code place t) place.index :=
  within_follow _ (List.forall_mem_singleton.mpr ht) hfront

/-- A thread that takes a character is within the next place. -/
theorem Front.Within.advance {next : Place} (hfront : front.Within next.index) (c : Char)
    {t : Thread} (ht : t.Within next.index) : (advance code c next front t).Within next.index := by
  unfold Pattern.advance
  split
  · split
    · exact hfront.admit (ht.at_label _)
    · exact hfront
  · exact hfront

theorem Front.Within.foldl_advance (next : Place) (hfront : front.Within next.index) (c : Char)
    {threads : List Thread} (hthreads : ∀ t ∈ threads, t.Within next.index) :
    (threads.foldl (Pattern.advance code c next) front).Within next.index := by
  induction threads generalizing front with
  | nil => exact hfront
  | cons t others ih =>
    obtain ⟨ht, hothers⟩ := List.forall_mem_cons.mp hthreads
    exact ih (hfront.advance c ht) hothers

/-- Cutting off threads behind one that accepts leaves threads of the list. -/
theorem mem_of_untilAccept (code : Code) (threads : List Thread) :
    (∀ t ∈ (untilAccept code threads).1, t ∈ threads) ∧
      ∀ t ∈ (untilAccept code threads).2, t ∈ threads := by
  induction threads with
  | nil => simp [untilAccept]
  | cons t others ih =>
    unfold untilAccept
    split
    · simp
    · constructor
      · intro u hu
        rcases List.mem_cons.mp hu with rfl | hu
        · exact List.mem_cons_self
        · exact List.mem_cons_of_mem _ (ih.1 u hu)
      · intro u hu
        exact List.mem_cons_of_mem _ (ih.2 u hu)

/-! ### Searching -/

/-- Every group that has taken part lies within the whole match. -/
def Found.Within (f : Found) : Prop := ∀ s, some s ∈ f.groups → s.Within f.span

theorem Thread.Within.found {t : Thread} {index : ℕ} (h : t.Within index) :
    (t.found index).Within := by
  intro s hs
  unfold Thread.found at hs
  rcases List.mem_cons.mp hs with heq | hs
  · cases heq
    exact ⟨le_rfl, h.start_le, le_rfl⟩
  · exact h.groups (Array.mem_toList_iff.mp (List.mem_of_mem_drop hs))

variable {m : Machine} {best : Option Found}

/-- A new attempt has entered no group before its start. -/
theorem Machine.within_attempt (m : Machine) (place : Place) :
    (m.attempt place).Within place.index where
  start_le := le_rfl
  entered {group n} hn := by
    simp only [Machine.attempt, Array.getElem?_replicate] at hn
    split_ifs at hn
    cases hn
    exact ⟨le_rfl, le_rfl⟩
  groups {s} hs := by simp [Machine.attempt] at hs

theorem Machine.within_join (m : Machine) (best : Option Found) (place : Place)
    (hfront : front.Within place.index) : (m.join place front best).Within place.index := by
  unfold Machine.join
  split
  · exact hfront.admit (m.within_attempt place)
  · exact hfront

theorem Machine.within_settle {place : Place} (hfront : front.Within place.index)
    (hbest : ∀ f ∈ best, f.Within) :
    (∀ t ∈ (m.settle place front best).1, t.Within place.index) ∧
      ∀ f ∈ (m.settle place front best).2, f.Within := by
  have hmem := mem_of_untilAccept m.code front.threads.toList
  have hthreads : ∀ t ∈ front.threads.toList, t.Within place.index :=
    fun t ht => hfront t (Array.mem_toList_iff.mp ht)
  unfold Machine.settle
  dsimp only
  split
  · rename_i t ht
    refine ⟨fun u hu => hthreads u (hmem.1 u hu), fun f hf => ?_⟩
    cases hf
    exact (hthreads t (hmem.2 t ht)).found
  · exact ⟨fun u hu => hthreads u (hmem.1 u hu), hbest⟩

theorem Machine.within_searchFrom {before : Option Char} {index : ℕ} (hfront : front.Within index)
    (hbest : ∀ f ∈ best, f.Within) (cs : List Char) :
    ∀ f ∈ m.searchFrom before index front best cs, f.Within := by
  induction cs generalizing before index front best with
  | nil =>
    have hjoined := m.within_join best ⟨index, before, none⟩ hfront
    exact (Machine.within_settle hjoined hbest).2
  | cons c rest ih =>
    have hjoined := m.within_join best ⟨index, before, some c⟩ hfront
    obtain ⟨hthreads, hknown⟩ := Machine.within_settle (m := m) hjoined hbest
    unfold Machine.searchFrom
    dsimp only
    split
    · exact hknown
    · refine ih ?_ hknown
      exact Front.Within.foldl_advance ⟨index + 1, some c, rest.head?⟩ (Front.within_next _ _) c
        fun t ht => (hthreads t ht).mono (Nat.le_succ _)

/-- **The groups of a match lie within it**, for any program. -/
theorem Machine.within_search (m : Machine) (cs : List Char) : ∀ f ∈ m.search cs, f.Within :=
  Machine.within_searchFrom (Front.within_empty _ _) (by simp) cs

end Pattern

open Pattern

/-! ### Texts of groups -/

variable {p : Pattern} {text : String} {m : PatternMatch}

/-- What a pattern matches is a part of the text. -/
theorem PatternMatch.matched_isInfix (hm : p.find? text = some m) : m.matched <:+: text.toList := by
  obtain ⟨found, -, rfl⟩ := Option.map_eq_some_iff.mp hm
  exact (List.take_prefix _ _).isInfix.trans (List.drop_suffix _ _).isInfix

/-- What a group matches is a part of what the whole pattern matches. -/
theorem PatternMatch.group?_isInfix (hm : p.find? text = some m) {group : ℕ} {cs : List Char}
    (hgroup : m.group? group = some cs) : cs <:+: m.matched := by
  obtain ⟨found, hfound, rfl⟩ := Option.map_eq_some_iff.mp hm
  obtain ⟨s, hs, rfl⟩ := Option.map_eq_some_iff.mp hgroup
  have hmem : some s ∈ found.groups := by
    apply List.mem_of_getElem? (i := group)
    simpa [PatternMatch.span?, Option.join_eq_some_iff] using hs
  exact (p.machine.within_search text.toList found hfound s hmem).slice_isInfix text.toList

end BannerMatch
