import BannerMatch.Text.Blank

/-!
# Syntax trees of patterns

What the text of a pattern says, before flags are applied.

* `ClassSet` is the inside of a bracketed class: characters, ranges, named classes, nested
  brackets and the operations between them.
* `Ast` is a pattern. A change of flags is an item of its own, which governs what follows it up to
  the end of the group.
* `Ast.depth` counts nested constructs; a pattern may nest `Ast.maxDepth` of them.
-/

namespace BannerMatch.Pattern

/-- A character written in a pattern. `byteForm` marks the form with exactly two hexadecimal
digits, which stands for a byte where the pattern is not in Unicode mode. -/
structure Literal where
  char : Char
  byteForm : Bool := false
deriving DecidableEq, Repr

/-- The classes with a one-letter escape. -/
inductive PerlClass
  | digit
  | space
  | word
deriving DecidableEq, Repr

/-- The classes written `[:name:]` inside brackets. -/
inductive AsciiClass
  | alnum | alpha | ascii | blank | cntrl | digit | graph
  | lower | print | punct | space | upper | word | xdigit
deriving DecidableEq, Repr

/-- How a pattern names a property of characters. -/
inductive PropertyName
  | lone (name : List Char)
  | valued (differs : Bool) (name value : List Char)
deriving DecidableEq, Repr

/-- The operations between sets inside brackets. -/
inductive SetOp
  | inter
  | diff
  | symmDiff
deriving DecidableEq, Repr

/-- The inside of a bracketed class. -/
inductive ClassSet
  | literal (l : Literal)
  | range (low high : Literal)
  | ascii (c : AsciiClass) (negated : Bool)
  | perl (c : PerlClass) (negated : Bool)
  | property (p : PropertyName) (negated : Bool)
  | bracket (negated : Bool) (body : ClassSet)
  | union (items : List ClassSet)
  | combine (op : SetOp) (left right : ClassSet)

/-- The assertions, which match between characters. -/
inductive Assertion
  | lineStart | lineEnd
  | textStart | textEnd
  | wordBoundary | notWordBoundary
  | wordStart | wordEnd
  | wordStartHalf | wordEndHalf
deriving DecidableEq, Repr

/-- The flags of a pattern. -/
inductive Flag
  | ignoreCase
  | multiLine
  | dotAll
  | swapGreed
  | unicode
  | crlf
  | verbose
deriving DecidableEq, Repr

/-- A change of flags: the flags it names, each with its new value. -/
abbrev FlagChange := List (Flag × Bool)

/-- The value that a change gives to a flag, if it names it. -/
def FlagChange.value? (change : FlagChange) (flag : Flag) : Option Bool :=
  (change.find? fun p => p.1 == flag).map Prod.snd

/-- A pattern as written. -/
inductive Ast
  | empty
  | flags (change : FlagChange)
  | literal (l : Literal)
  | dot
  | assertion (a : Assertion)
  | perl (c : PerlClass) (negated : Bool)
  | property (p : PropertyName) (negated : Bool)
  | bracket (negated : Bool) (body : ClassSet)
  | loop (min : Nat) (max : Option Nat) (greedy : Bool) (body : Ast)
  | capture (index : Nat) (body : Ast)
  | group (change : FlagChange) (body : Ast)
  | concat (items : List Ast)
  | alternate (branches : List Ast)

/-- The union of the items read at one level of a class. -/
def ClassSet.ofItems : List ClassSet → ClassSet
  | [item] => item
  | items => .union items

/-- The concatenation of the items read at one level of a pattern. -/
def Ast.ofItems : List Ast → Ast
  | [] => .empty
  | [item] => item
  | items => .concat items

/-- The alternation of the branches read at one level of a pattern. -/
def Ast.ofBranches : List Ast → Ast
  | [branch] => branch
  | branches => .alternate branches

mutual

/-- How deeply brackets, unions and operations are nested. -/
def ClassSet.depth : ClassSet → Nat
  | .literal _ => 0
  | .range _ _ => 0
  | .ascii _ _ => 0
  | .perl _ _ => 0
  | .property _ _ => 0
  | .bracket _ body => body.depth + 1
  | .union [] => 0
  | .union (item :: items) => max item.depth (ClassSet.depthAll items) + 1
  | .combine _ left right => max left.depth right.depth + 1

/-- The greatest depth among the items. -/
def ClassSet.depthAll : List ClassSet → Nat
  | [] => 0
  | item :: items => max item.depth (ClassSet.depthAll items)

end

mutual

/-- How deeply classes, repetitions, groups, concatenations and alternations are nested. -/
def Ast.depth : Ast → Nat
  | .empty => 0
  | .flags _ => 0
  | .literal _ => 0
  | .dot => 0
  | .assertion _ => 0
  | .perl _ _ => 0
  | .property _ _ => 0
  | .bracket _ body => body.depth + 1
  | .loop _ _ _ body => body.depth + 1
  | .capture _ body => body.depth + 1
  | .group _ body => body.depth + 1
  | .concat items => Ast.depthAll items + 1
  | .alternate branches => Ast.depthAll branches + 1

/-- The greatest depth among the items. -/
def Ast.depthAll : List Ast → Nat
  | [] => 0
  | item :: items => max item.depth (Ast.depthAll items)

end

/-- The greatest depth of a pattern that is accepted. -/
def Ast.maxDepth : Nat := 250

end BannerMatch.Pattern
