/-!
# Tallies

A tally counts how often each text occurs; texts are listed in order.
-/

namespace BannerMatch

/-- How often texts occur. -/
abbrev Tally := List (String × Nat)

namespace Tally

/-- Counts a text once more. -/
def add (key : String) : Tally → Tally
  | [] => [(key, 1)]
  | (k, n) :: rest =>
      if key = k then (k, n + 1) :: rest
      else if key < k then (key, 1) :: (k, n) :: rest
      else (k, n) :: add key rest

/-- The tally of a list of texts. -/
def of (keys : List String) : Tally := keys.foldl (fun t key => t.add key) []

/-- How often a text occurs. -/
def count (t : Tally) (key : String) : Nat := (t.lookup key).getD 0

/-- How many texts have been counted. -/
def total (t : Tally) : Nat := t.foldr (fun p n => p.2 + n) 0

end Tally

end BannerMatch
