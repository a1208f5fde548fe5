import BannerMatch.Pattern.Search
import Mathlib.Tactic

/-!
# Programs without moves

In a program whose instructions all wait for a character or accept (`Code.Waits`) the threads of a
place never branch. Admitting a thread puts it behind the others (`Front.Holds.append`), and moving
the threads of a place over a character is one `filterMap` (`Front.Holds.foldl_advance`), as long as
no two of them come to the same label.
-/

namespace BannerMatch.Pattern

/-! ### Fronts -/

/-- Every instruction waits, and what comes after a character is there. -/
structure Code.Waits (code : Code) : Prop where
  waits {label : ℕ} {i : Instr} (h : code[label]? = some i) : i.waits = true
  next_lt {label next : ℕ} {s : CodeSet} (h : code[label]? = some (.chars s next)) :
    next < code.size

/-- The thread behind the character `c`, if it can take it. -/
def Thread.step? (code : Code) (c : Char) (t : Thread) : Option Thread :=
  match code[t.label]? with
  | some (.chars s next) => if s.contains c then some { t with label := next } else none
  | _ => none

/-- The front has the threads `ts`, and the labels that were visited at its place are theirs. -/
structure Front.Holds (front : Front) (index : ℕ) (ts : List Thread) : Prop where
  threads : front.threads.toList = ts
  visited_le : ∀ label, front.visited.getD label 0 ≤ index + 1
  mem_of_visited : ∀ label, front.visited.getD label 0 = index + 1 → label ∈ ts.map Thread.label

theorem follow_nil (code : Code) (place : Place) (fuel : ℕ) (front : Front) :
    follow code place fuel [] front = front := by
  cases fuel <;> rfl

theorem Instr.moves_of_waits {i : Instr} (h : i.waits = true) (t : Thread) (place : Place) :
    t.moves place i = [] := by
  cases i <;> first | rfl | cases h

/-- A thread at a label that waits is put behind the others. -/
theorem Front.admit_of_waits {front : Front} {code : Code} {place : Place} {t : Thread} {i : Instr}
    (hi : code[t.label]? = some i) (hwaits : i.waits = true)
    (hnew : front.visited.getD t.label 0 ≠ place.index + 1) :
    front.admit code place t =
      ⟨front.visited.setIfInBounds t.label (place.index + 1), front.threads.push t⟩ := by
  unfold Front.admit
  rw [follow, if_neg hnew]
  simp only [hi, hwaits, if_true]
  rw [Instr.moves_of_waits hwaits, List.append_nil, follow_nil]

namespace Front.Holds

variable {code : Code} {front : Front} {index : ℕ} {place : Place} {ts : List Thread}

theorem empty (code : Code) (index : ℕ) : (Front.empty code).Holds index [] := by
  have hzero : ∀ label, (Front.empty code).visited.getD label 0 = 0 := fun label => by
    simp only [Front.empty, Array.getD_eq_getD_getElem?, Array.getElem?_replicate]
    split_ifs <;> rfl
  exact ⟨rfl, fun label => by rw [hzero]; omega, fun label h => by rw [hzero] at h; omega⟩

theorem next (h : front.Holds index ts) : front.next.Holds (index + 1) [] where
  threads := rfl
  visited_le label := Nat.le_succ_of_le (h.visited_le label)
  mem_of_visited label hlabel := by
    have hle : front.visited.getD label 0 ≤ index + 1 := h.visited_le label
    have heq : front.visited.getD label 0 = index + 1 + 1 := hlabel
    omega

/-- A thread at a label of its own is put behind the others. -/
theorem append (h : front.Holds place.index ts) {t : Thread} {i : Instr}
    (hi : code[t.label]? = some i) (hwaits : i.waits = true)
    (hnew : t.label ∉ ts.map Thread.label) :
    Front.Holds ( front.admit code place t) place.index (ts ++ [t]) := by
  have hset : ∀ label,
      (front.visited.setIfInBounds t.label (place.index + 1)).getD label 0 = place.index + 1 ∧
          label = t.label ∨
        (front.visited.setIfInBounds t.label (place.index + 1)).getD label 0 =
          front.visited.getD label 0 := by
    intro label
    simp only [Array.getD_eq_getD_getElem?, Array.getElem?_setIfInBounds]
    split_ifs with heq hlt
    · exact .inl ⟨rfl, heq.symm⟩
    · subst heq
      rw [Array.getElem?_eq_none (Nat.le_of_not_lt hlt)]
      exact .inr rfl
    · exact .inr rfl
  rw [Front.admit_of_waits hi hwaits fun hvisited => hnew (h.mem_of_visited _ hvisited)]
  constructor
  · rw [Array.toList_push, h.threads]
  · intro label
    rcases hset label with ⟨heq, -⟩ | heq
    · exact heq.le
    · exact heq.trans_le (h.visited_le label)
  · intro label hlabel
    rw [List.map_append, List.mem_append]
    rcases hset label with ⟨-, rfl⟩ | heq
    · exact .inr (List.mem_singleton_self _)
    · exact .inl (h.mem_of_visited label (heq.symm.trans hlabel))

theorem advance (h : front.Holds place.index ts) (hcode : code.Waits) {c : Char} {t : Thread}
    (hnew : ∀ t' ∈ t.step? code c, t'.label ∉ ts.map Thread.label) :
    (advance code c place front t).Holds place.index (ts ++ (t.step? code c).toList) := by
  rw [Pattern.advance]
  rw [Thread.step?] at hnew ⊢
  split
  · rename_i s next hinstr
    simp only [hinstr] at hnew ⊢
    split_ifs at hnew ⊢
    · obtain ⟨i, hi⟩ : ∃ i, code[next]? = some i :=
        ⟨_, Array.getElem?_eq_getElem (hcode.next_lt hinstr)⟩
      exact h.append hi (hcode.waits hi) (hnew _ rfl)
    · simpa using h
  · simpa using h

/-- The threads that can take the character are those at the next place, in the same order. -/
theorem foldl_advance (hcode : code.Waits) (c : Char) (place : Place) (moving : List Thread)
    (h : front.Holds place.index ts)
    (hnodup : ((ts ++ moving.filterMap (Thread.step? code c)).map Thread.label).Nodup) :
    (moving.foldl (Pattern.advance code c place) front).Holds place.index
      (ts ++ moving.filterMap (Thread.step? code c)) := by
  induction moving generalizing front ts with
  | nil => simpa using h
  | cons t moving ih =>
    have hcons : ts ++ (t :: moving).filterMap (Thread.step? code c) =
        ts ++ (t.step? code c).toList ++ moving.filterMap (Thread.step? code c) := by
      rw [List.filterMap_cons, List.append_assoc]
      cases t.step? code c <;> rfl
    rw [hcons] at hnodup ⊢
    rw [List.foldl_cons]
    refine ih (h.advance hcode fun t' ht' hmem => ?_) hnodup
    rw [List.map_append, List.map_append] at hnodup
    have hdisjoint := List.disjoint_of_nodup_append (List.nodup_append.mp hnodup).1
    exact hdisjoint hmem (List.mem_map_of_mem (Option.mem_toList.mpr ht'))

end Front.Holds

/-! ### Accepting threads -/

theorem untilAccept_of_accept {code : Code} {t : Thread} (ht : code[t.label]? = some .accept)
    (ts : List Thread) : untilAccept code (t :: ts) = ([], some t) := by
  simp only [untilAccept, ht]

theorem untilAccept_of_forall_ne {code : Code} {ts : List Thread}
    (h : ∀ t ∈ ts, code[t.label]? ≠ some .accept) : untilAccept code ts = (ts, none) := by
  induction ts with
  | nil => rfl
  | cons t ts ih =>
    obtain ⟨ht, hts⟩ := List.forall_mem_cons.mp h
    rw [untilAccept, ih hts]
    split
    · contradiction
    · rfl

end BannerMatch.Pattern
