/-!
# Sets of code points

A set of characters is an increasing list of code point ranges with a gap between neighbours.

* `CodeSet.contains` decides membership and stops at the first range above the character.
* `union`, `compl`, `inter`, `diff` and `symmDiff` are the operations of the pattern dialect.
* `CodeSet.ofRows` reads the written form of the property tables, `41-5A 61-7A`.

Every operation is by recursion on the ranges, so closed instances evaluate.
-/

namespace BannerMatch

/-- A set of code points, as inclusive ranges in increasing order. -/
structure CodeSet where
  /-- The ranges `(low, high)`, both ends included. -/
  ranges : List (Nat × Nat)
deriving DecidableEq, Repr, Inhabited

namespace CodeSet

/-- The largest code point. -/
def maxCode : Nat := 0x10FFFF

/-- The set without members. -/
def empty : CodeSet := ⟨[]⟩

/-- The set of all code points. -/
def all : CodeSet := ⟨[(0, maxCode)]⟩

/-- The set of one range. -/
def range (low high : Nat) : CodeSet := ⟨[(low, high)]⟩

/-- The set of one code point. -/
def single (n : Nat) : CodeSet := range n n

/-- Membership in increasing ranges. -/
def inRanges (n : Nat) : List (Nat × Nat) → Bool
  | [] => false
  | (low, high) :: rest => if n < low then false else if n ≤ high then true else inRanges n rest

/-- Whether the code point `n` is in the set. -/
def containsCode (s : CodeSet) (n : Nat) : Bool := inRanges n s.ranges

/-- Whether the character is in the set. -/
def contains (s : CodeSet) (c : Char) : Bool := s.containsCode c.toNat

@[simp] theorem contains_single (c d : Char) : (single c.toNat).contains d = (d == c) := by
  by_cases h : d = c
  · subst h
    simp [contains, containsCode, single, range, inRanges]
  · have hn : d.toNat ≠ c.toNat := fun hn => h (Char.toNat_inj.1 hn)
    simp only [contains, containsCode, single, range, inRanges]
    have : (d == c) = false := by simpa using h
    rw [this]
    split
    · rfl
    · split
      · omega
      · rfl

/-- Puts `r` into place before the first range that starts above it, then goes on with `next`. -/
def mergeOne (r : Nat × Nat) (next : List (Nat × Nat) → List (Nat × Nat)) :
    List (Nat × Nat) → List (Nat × Nat)
  | [] => r :: next []
  | q :: rest => if r.1 ≤ q.1 then r :: next (q :: rest) else q :: mergeOne r next rest

/-- The ranges of both lists in the order of their low ends. -/
def merge : List (Nat × Nat) → List (Nat × Nat) → List (Nat × Nat)
  | [] => id
  | r :: rest => mergeOne r (merge rest)

/-- Joins ranges that overlap or touch, starting from the range `(low, high)`. -/
def joinFrom (low high : Nat) : List (Nat × Nat) → List (Nat × Nat)
  | [] => [(low, high)]
  | (l, h) :: rest =>
      if l ≤ high + 1 then joinFrom low (max high h) rest else (low, high) :: joinFrom l h rest

/-- Joins the ranges of an ordered list that overlap or touch. -/
def join : List (Nat × Nat) → List (Nat × Nat)
  | [] => []
  | (l, h) :: rest => joinFrom l h rest

/-- The members of either set. -/
def union (s t : CodeSet) : CodeSet := ⟨join (merge s.ranges t.ranges)⟩

/-- The ranges between the given ones, from `start` up. -/
def gaps (start : Nat) : List (Nat × Nat) → List (Nat × Nat)
  | [] => if start ≤ maxCode then [(start, maxCode)] else []
  | (l, h) :: rest => if start < l then (start, l - 1) :: gaps (h + 1) rest else gaps (h + 1) rest

/-- The code points outside the set. -/
def compl (s : CodeSet) : CodeSet := ⟨gaps 0 s.ranges⟩

/-- The members of both sets. -/
def inter (s t : CodeSet) : CodeSet := (s.compl.union t.compl).compl

/-- The members of the first set that are not in the second. -/
def diff (s t : CodeSet) : CodeSet := s.inter t.compl

/-- The members of exactly one of the sets. -/
def symmDiff (s t : CodeSet) : CodeSet := (s.diff t).union (t.diff s)

/-- The part of a range that holds characters: code points from `0xD800` to `0xDFFF` stand for
none. -/
def characterRanges (r : Nat × Nat) : List (Nat × Nat) :=
  if r.1 < 0xE000 ∧ 0xD7FF < r.2 then
    (if r.1 < 0xD800 then [(r.1, 0xD7FF)] else []) ++ (if 0xDFFF < r.2 then [(0xE000, r.2)] else [])
  else [r]

/-- The members that are characters. -/
def characters (s : CodeSet) : CodeSet := ⟨s.ranges.flatMap characterRanges⟩

/-- The union of a list of sets. -/
def unions (ss : List CodeSet) : CodeSet := ss.foldr union empty

/-- The set of the listed code points. -/
def ofCodes (ns : List Nat) : CodeSet := unions (ns.map single)

/-- The value of a hexadecimal digit; other characters count as zero. -/
def hexValue (c : Char) : Nat :=
  if '0' ≤ c ∧ c ≤ '9' then c.toNat - '0'.toNat
  else if 'A' ≤ c ∧ c ≤ 'F' then c.toNat - 'A'.toNat + 10
  else if 'a' ≤ c ∧ c ≤ 'f' then c.toNat - 'a'.toNat + 10
  else 0

/-- Reads ranges separated by blanks; `low` is the low end of a range whose high end `n` is being
read. -/
def readRanges (low : Option Nat) (n : Nat) : List Char → List (Nat × Nat)
  | [] => [(low.getD n, n)]
  | c :: rest =>
      if c = '-' then readRanges (some n) 0 rest
      else if c = ' ' then (low.getD n, n) :: readRanges none 0 rest
      else readRanges low (16 * n + hexValue c) rest

/-- Reads a set from its written form: rows of code points and ranges in hexadecimal, in increasing
order, separated by one blank. -/
def ofRows (rows : List String) : CodeSet :=
  ⟨rows.flatMap fun row => readRanges none 0 row.toList⟩

end CodeSet

end BannerMatch
