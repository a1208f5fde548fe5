/-!
# Field templates

A template is a text with references to the groups of a match.

* `$N`, for decimal digits `N` that do not spell zero, stands for the text of group `N`, and for
  nothing if the group took no part or the number has no place in 64 bits.
* `$$` stands for one dollar sign.
* Everything else stands for itself: a dollar sign before any other character, and `$` with digits
  that spell zero.
-/

namespace BannerMatch.Template

/-- What has been read of a reference. -/
inductive Pending
  | nothing
  | dollar
  /-- A dollar sign and digits, last first. -/
  | number (digits : List Char)

/-- The number that digits spell, given last first. -/
def numberOf (digits : List Char) : Nat :=
  digits.foldr (fun d n => 10 * n + (d.toNat - 48)) 0

/-- Group numbers are below this bound. -/
def groupBound : Nat := 0x10000000000000000

/-- The text of the reference with the given digits, last first. -/
def reference (group : Nat → Option (List Char)) (digits : List Char) : List Char :=
  let n := numberOf digits
  if n = 0 then '$' :: digits.reverse
  else if n < groupBound then (group n).getD []
  else []

/-- Resolves the rest of a template after what is pending. -/
def resolveFrom (group : Nat → Option (List Char)) : Pending → List Char → List Char
  | .nothing, [] => []
  | .nothing, c :: rest =>
      if c = '$' then resolveFrom group .dollar rest else c :: resolveFrom group .nothing rest
  | .dollar, [] => ['$']
  | .dollar, c :: rest =>
      if c = '$' then '$' :: resolveFrom group .nothing rest
      else if c.isDigit then resolveFrom group (.number [c]) rest
      else '$' :: c :: resolveFrom group .nothing rest
  | .number ds, [] => reference group ds
  | .number ds, c :: rest =>
      if c.isDigit then resolveFrom group (.number (c :: ds)) rest
      else if c = '$' then reference group ds ++ resolveFrom group .dollar rest
      else reference group ds ++ c :: resolveFrom group .nothing rest

/-- The template with its references replaced by the texts of groups. -/
def resolve (template : List Char) (group : Nat → Option (List Char)) : List Char :=
  resolveFrom group .nothing template

/-- Whether a dollar sign stands before a digit other than zero. -/
def hasPlaceholder : List Char → Bool
  | a :: b :: rest =>
      (a == '$' && b.isDigit && b != '0') || hasPlaceholder (b :: rest)
  | _ => false

end BannerMatch.Template
