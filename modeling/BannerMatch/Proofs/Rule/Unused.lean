import BannerMatch.Proofs.Rule.Assigned

/-!
# Drawing until an identifier is not in use

`IdSource.drawUnused` looks for a number; the plain way is to draw one identifier after the other
until one is not in use (`DrawsUntilUnused`). The two come to the same: all numbers before the one
that is found have names in use, and since different numbers have different names there are at most
as many as names (`IdSource.le_card_of_names_mem`).

A source that is used in both ways, in any order, never gives an identifier twice:
`IdSource.draws_drawAll`.
-/

namespace BannerMatch
namespace IdSource

/-! ### One draw after the other -/

/-- Identifiers are drawn until one is not in use: how many are drawn, and what the last draw
gives. -/
inductive DrawsUntilUnused (taken : List String) : IdSource → ℕ → String × IdSource → Prop
  | unused {s : IdSource} (h : s.draw.1 ∉ taken) : DrawsUntilUnused taken s 1 s.draw
  | used {s : IdSource} {count : ℕ} {result : String × IdSource} (h : s.draw.1 ∈ taken)
      (rest : DrawsUntilUnused taken s.draw.2 count result) :
      DrawsUntilUnused taken s (count + 1) result

variable {s : IdSource} {taken : List String}

theorem DrawsUntilUnused.unique {j k : ℕ} {result other : String × IdSource}
    (h : DrawsUntilUnused taken s j result) (h' : DrawsUntilUnused taken s k other) :
    k = j ∧ other = result := by
  induction h generalizing k with
  | unused hfree =>
    cases h' with
    | unused _ => exact ⟨rfl, rfl⟩
    | used hused _ => exact absurd hused hfree
  | used hused _ ih =>
    cases h' with
    | unused hfree => exact absurd hused hfree
    | used _ hrest =>
      obtain ⟨hcount, hresult⟩ := ih hrest
      exact ⟨by rw [hcount], hresult⟩

/-- After `k` numbers with names in use, the next draw is the last one if its name is not. -/
theorem drawsUntilUnused_of_passed {k : ℕ} (hpassed : ∀ i < k, s.name (s.next + i) ∈ taken)
    (hfree : s.name (s.next + k) ∉ taken) :
    DrawsUntilUnused taken s (k + 1) (s.name (s.next + k), s.after (s.next + k)) := by
  induction k generalizing s with
  | zero => exact .unused hfree
  | succ k ih =>
    have hshift : ∀ i, s.next + (i + 1) = s.next + 1 + i := fun i => by omega
    rw [hshift] at hfree ⊢
    refine .used (hpassed 0 (Nat.succ_pos k)) ?_
    -- the source after one draw has the same names
    refine ih (fun i hi => ?_) hfree
    have hnext := hpassed (i + 1) (by omega)
    rw [hshift] at hnext
    exact hnext

/-! ### Any uses of a source -/

/-- A use of a source: the next identifier is drawn, or the next one that is not in use. -/
inductive Use
  | next
  | unused (taken : List String)
  deriving DecidableEq, Repr

/-- What a use of a source gives. -/
def drawFor (s : IdSource) : Use → String × IdSource
  | .next => s.draw
  | .unused taken => s.drawUnused taken

/-- The identifiers that uses of a source give, one after the other, and the source after them. -/
def drawAll (s : IdSource) : List Use → List String × IdSource
  | [] => ([], s)
  | use :: rest =>
      let drawn := s.drawFor use
      let others := drawn.2.drawAll rest
      (drawn.1 :: others.1, others.2)

theorem draws_drawFor (s : IdSource) (use : Use) :
    s.Draws (s.drawFor use).2 [(s.drawFor use).1] := by
  cases use with
  | next => exact s.draws_drawUnused []
  | unused taken => exact s.draws_drawUnused taken

/-- **A source never gives an identifier twice**, however it is used. -/
theorem draws_drawAll (s : IdSource) (uses : List Use) :
    s.Draws (s.drawAll uses).2 (s.drawAll uses).1 := by
  induction uses generalizing s with
  | nil => exact .refl s
  | cons use rest ih => exact (s.draws_drawFor use).append (ih (s.drawFor use).2)

/-- **The next identifier that is not in use** has the least number, from that of the source up,
whose name is not in use, and the source goes on with the number after it. Drawing one identifier
after the other ends, and with the same outcome: it takes at most one draw more than there are
names in use, so no number is drawn beyond `s.next` plus the number of those names. Whatever is
drawn from a source in these two ways, in any order, is pairwise distinct. -/
theorem drawUnused_least_and_distinct (s : IdSource) :
    (∀ taken : List String, ∃ m count,
      IsLeast {n | s.next ≤ n ∧ s.stem ++ "_" ++ toString n ∉ taken} m ∧
      s.drawUnused taken = (s.stem ++ "_" ++ toString m, { s with next := m + 1 }) ∧
      (count ≤ taken.toFinset.card + 1 ∧ s.next + count = m + 1) ∧
      ∀ draws result, DrawsUntilUnused taken s draws result ↔
        draws = count ∧ result = s.drawUnused taken) ∧
    ∀ uses, (s.drawAll uses).1.Pairwise (· ≠ ·) := by
  refine ⟨fun taken => ?_, fun uses => (s.draws_drawAll uses).nodup⟩
  obtain ⟨k, hdrawn, hpassed, hfree⟩ := s.exists_drawUnused_eq taken
  have hloop : DrawsUntilUnused taken s (k + 1) (s.drawUnused taken) := by
    rw [hdrawn]
    exact drawsUntilUnused_of_passed hpassed hfree
  refine ⟨s.next + k, k + 1, ⟨⟨Nat.le_add_right _ _, hfree⟩, ?_⟩, hdrawn, ⟨?_, rfl⟩, ?_⟩
  · rintro n ⟨hn, hname⟩
    by_contra hlt
    obtain ⟨i, rfl⟩ := Nat.exists_eq_add_of_le hn
    exact hname (hpassed i (by omega))
  · exact Nat.succ_le_succ (s.le_card_of_names_mem taken s.next hpassed)
  · intro draws result
    constructor
    · exact fun h => hloop.unique h
    · rintro ⟨rfl, rfl⟩
      exact hloop

/-- Between two ways to draw. -/
example : (({} : IdSource).drawAll
    [.next, .unused ["rule_1", "rule_2", "other"], .unused [], .next]).1 =
      ["rule_1", "rule_3", "rule_4", "rule_5"] := by decide

end IdSource
end BannerMatch
