import BannerMatch.Pattern.Reader
import BannerMatch.Pattern.Search
import BannerMatch.Pattern.Flags
import BannerMatch.Pattern.Footprint
import BannerMatch.Text.Utf8

/-!
# Patterns

A pattern is compiled once and then searched for in texts.

* `Pattern.compile` refuses a text that is no pattern (`PatternFault.malformed`) and a pattern that
  would take too much memory (`PatternFault.tooBig`).
* `Pattern.find?` gives the leftmost match, and among the matches from there the preferred one.
* `PatternMatch.group?` gives the text of a group.

How a fault is described to a reader, with the place in the text and a hint, is not modelled: there
is one word for each of the two.
-/

namespace BannerMatch

open Pattern

/-- Why a text cannot be used as a pattern. -/
inductive PatternFault
  | malformed
  | tooBig
deriving DecidableEq, Repr

/-- The word that stands for the description of a fault. -/
def PatternFault.message : PatternFault → String
  | .malformed => "syntax"
  | .tooBig => "too_big"

/-- A compiled pattern. -/
structure Pattern where
  /-- The text it was compiled from. -/
  source : String
  machine : Machine

/-- A match of a pattern in a text. -/
structure PatternMatch where
  /-- The text that was searched. -/
  text : List Char
  found : Found

/-- The program of an expression with its groups. -/
def Pattern.Machine.ofExpr (e : Expr) : Machine :=
  let entry := Code.ofExpr e
  ⟨entry.2, entry.1, e.captures + 1⟩

/-- The machine of a pattern written as a list of characters. -/
def Pattern.machine? (cs : List Char) : Except PatternFault Machine :=
  match Ast.read? cs with
  | none => .error .malformed
  | some ast => match ast.expr? with
    | none => .error .malformed
    | some e => if e.fits then .ok (.ofExpr e) else .error .tooBig

/-- Compiles a pattern. -/
def Pattern.compile (source : String) : Except PatternFault Pattern :=
  (Pattern.machine? source.toList).map fun m => ⟨source, m⟩

/-- The number of groups, the whole match included. -/
def Pattern.groupCount (p : Pattern) : Nat := p.machine.groupCount

/-- The first match in a text, if there is one. -/
def Pattern.find? (p : Pattern) (text : String) : Option PatternMatch :=
  (p.machine.search text.toList).map fun found => ⟨text.toList, found⟩

/-- Whether the pattern matches somewhere in a text. -/
def Pattern.isMatch (p : Pattern) (text : String) : Bool := (p.find? text).isSome

/-- The part of the text that a group matched; group `0` is the whole match. -/
def PatternMatch.span? (m : PatternMatch) (group : Nat) : Option Span :=
  (m.found.groups[group]?).join

/-- The text that a group matched. -/
def PatternMatch.group? (m : PatternMatch) (group : Nat) : Option (List Char) :=
  (m.span? group).map fun s => s.slice m.text

/-- The text of the whole match. -/
def PatternMatch.matched (m : PatternMatch) : List Char := m.found.span.slice m.text

/-- The numbers of UTF-8 bytes before the ends of a part of the text. -/
def PatternMatch.byteOffsets (m : PatternMatch) (s : Span) : Nat × Nat :=
  let bytes (n : Nat) : Nat := Text.byteLength (m.text.take n)
  (bytes s.start, bytes s.stop)

end BannerMatch
