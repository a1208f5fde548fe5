import BannerMatch.Cache.Sweeper
import BannerMatch.Proofs.Cache.Invariant

/-!
# Sweepers

A sweeper goes on at some of the instants at which it is woken up, a period apart (`ticks_apart`).
It ends as soon as it finds its cache out of use then, and up to that it has swept each time
(`runSweeper_eq`). What every sweep keeps, a sweeper keeps (`sweepWhile_keeps`). It takes away exactly
the entries that have expired when it sweeps for the last time (`Sound.runSweeper_entries`).
-/

namespace BannerMatch
namespace Cache

variable {c : Cache} {period next : ℕ} {inUse : ℕ → Bool} {instants : List ℕ}

/-! ### Ticks -/

theorem le_of_mem_ticks {instant : ℕ} (h : instant ∈ ticks period next instants) :
    next ≤ instant := by
  induction instants generalizing next with
  | nil => cases h
  | cons now rest ih =>
    rw [ticks] at h
    split at h
    · exact ih h
    · rename_i hnow
      rcases List.mem_cons.mp h with rfl | h
      · exact Nat.le_of_not_lt hnow
      · have hlater := ih h
        omega

/-- **A sweeper goes on once in a period at most.** -/
theorem ticks_apart (period next : ℕ) (instants : List ℕ) :
    (ticks period next instants).Pairwise fun now later => now + period ≤ later := by
  induction instants generalizing next with
  | nil => exact List.Pairwise.nil
  | cons now rest ih =>
    rw [ticks]
    split
    · exact ih next
    · exact List.pairwise_cons.mpr ⟨fun _ h => le_of_mem_ticks h, ih (now + period)⟩

/-! ### Runs -/

/-- What every sweep keeps, a sweeper keeps. -/
theorem sweepWhile_keeps {P : Cache → Prop} (h : ∀ (c : Cache) (now : ℕ), P c → P (c.sweep now).2)
    (hc : P c) (inUse : ℕ → Bool) (instants : List ℕ) : P (c.sweepWhile inUse instants).2 := by
  induction instants generalizing c with
  | nil => exact hc
  | cons now rest ih =>
    rw [sweepWhile]
    split
    · exact ih (h c now hc)
    · exact hc

/-- It sweeps at the instants up to the one at which it finds its cache out of use. -/
theorem sweepWhile_eq (c : Cache) (inUse : ℕ → Bool) (instants : List ℕ) :
    c.sweepWhile inUse instants =
      (instants.any fun now => !inUse now,
        (instants.takeWhile inUse).foldl (fun c now => (c.sweep now).2) c) := by
  induction instants generalizing c with
  | nil => rfl
  | cons now rest ih =>
    rw [sweepWhile]
    cases huse : inUse now with
    | true => simp [huse, ih]
    | false => simp [huse]

/-- **What becomes of a sweeper.** Without a scheduler it cannot be started. With one it has ended
exactly if its cache was out of use at one of its ticks, and up to that it has swept at each. -/
theorem runSweeper_eq (c : Cache) (period : ℕ) (inUse : ℕ → Bool) (wakeups : Option (List ℕ)) :
    c.runSweeper period inUse wakeups =
      match wakeups with
      | none => .error .noScheduler
      | some instants =>
          let swept := ticks period 0 instants
          .ok (swept.any fun now => !inUse now,
            (swept.takeWhile inUse).foldl (fun c now => (c.sweep now).2) c) := by
  cases wakeups with
  | none => rfl
  | some instants => exact congrArg Except.ok (sweepWhile_eq c inUse _)

/-- Sweeps in order leave the entries that outlive the last of them. -/
theorem Sound.sweepWhile_entries (hc : Sound c) {last : ℕ}
    (hord : (instants ++ [last]).Pairwise (· ≤ ·)) :
    (c.sweepWhile (fun _ => true) (instants ++ [last])).2.entries =
      c.entries.filter (isLive last) := by
  induction instants generalizing c with
  | nil => exact hc.sweep_entries last
  | cons now rest ih =>
    obtain ⟨hfirst, hrest⟩ := List.pairwise_cons.mp hord
    refine (ih (hc.sweep now) hrest).trans ?_
    -- what outlives the last instant outlives this one
    rw [hc.sweep_entries, List.filter_filter]
    refine List.filter_congr fun p _ => ?_
    have hle := hfirst last (List.mem_append_right _ List.mem_cons_self)
    simp only [isLive, Bool.and_eq_left_iff_imp, decide_eq_true_eq]
    omega

/-- **What a sweeper leaves** of a cache that stays in use: the entries that outlive the last instant
at which it has gone on. -/
theorem Sound.runSweeper_entries (hc : Sound c) {earlier : List ℕ} {last : ℕ}
    (hticks : ticks period 0 instants = earlier ++ [last]) :
    ∃ after, c.runSweeper period (fun _ => true) (some instants) = .ok (false, after) ∧
      after.entries = c.entries.filter (isLive last) := by
  have hord := (ticks_apart period 0 instants).imp fun hle => Nat.le_of_add_right_le hle
  rw [hticks] at hord
  refine ⟨_, ?_, hc.sweepWhile_entries hord⟩
  rw [runSweeper, hticks, sweepWhile_eq]
  simp

end Cache
end BannerMatch
