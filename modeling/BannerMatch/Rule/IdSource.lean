/-!
# Rule identifiers

A source of identifiers `stem_1`, `stem_2`, … `drawUnused` passes over those that are in use; among
`n + 1` numbers one is always free of `n` names.
-/

namespace BannerMatch

/-- A source of identifiers. -/
structure IdSource where
  stem : String := "rule"
  /-- The number of the next identifier. -/
  next : Nat := 1
deriving DecidableEq, Repr, Inhabited

namespace IdSource

/-- The identifier with a given number. -/
def name (s : IdSource) (n : Nat) : String := s.stem ++ "_" ++ toString n

/-- The source after the identifier with number `n` has been given away. -/
def after (s : IdSource) (n : Nat) : IdSource := { s with next := n + 1 }

/-- The next identifier. -/
def draw (s : IdSource) : String × IdSource := (s.name s.next, s.after s.next)

/-- The first number from `n` up whose identifier is not in use; at most `fuel` are passed over. -/
def unusedFrom (s : IdSource) (taken : List String) : Nat → Nat → Nat
  | 0, n => n
  | fuel + 1, n => if taken.contains (s.name n) then unusedFrom s taken fuel (n + 1) else n

/-- The next identifier that is not in use. -/
def drawUnused (s : IdSource) (taken : List String) : String × IdSource :=
  let n := s.unusedFrom taken taken.length s.next
  (s.name n, s.after n)

end IdSource

end BannerMatch
