import BannerMatch.Pattern.Syntax
import BannerMatch.Unicode.CodeSet

/-!
# Expressions

What a pattern means once its flags are applied: texts, sets of characters, assertions, sequences,
alternatives in order of preference, capturing groups and bounded loops.

Expressions are built in a normal form.

* `Expr.ofSet`: a set of one character is a text.
* `Expr.sequence`: a sequence has no sequences and no empty items in it, and no two texts in a row.
* `Expr.choice`: alternatives that are all single characters, or all sets, are one set; items that
  all alternatives start with stand before them.
* `Expr.repeated`: what matches only the empty text is repeated at most once, and a loop of no
  rounds is the empty expression, whose groups are gone.
-/

namespace BannerMatch.Pattern

/-- The assertions after flags are applied. `ascii` asks for ASCII words. -/
inductive Look
  | start | stop
  | lineStart | lineStop
  | crlfStart | crlfStop
  | word (ascii : Bool) | notWord (ascii : Bool)
  | wordStart (ascii : Bool) | wordEnd (ascii : Bool)
  | wordStartHalf (ascii : Bool) | wordEndHalf (ascii : Bool)
deriving DecidableEq, Repr

/-- What a pattern means. -/
inductive Expr
  | empty
  | literal (text : List Char)
  | chars (s : CodeSet)
  | look (l : Look)
  | seq (items : List Expr)
  | alt (branches : List Expr)
  | group (index : Nat) (body : Expr)
  | loop (min : Nat) (max : Option Nat) (greedy : Bool) (body : Expr)

namespace Expr

/-! ### Measures -/

mutual

/-- Whether two expressions are the same. -/
def same : Expr → Expr → Bool
  | empty, empty => true
  | literal a, literal b => a == b
  | chars s, chars t => s == t
  | look l, look m => l == m
  | seq xs, seq ys => sameAll xs ys
  | alt xs, alt ys => sameAll xs ys
  | group i x, group j y => i == j && x.same y
  | loop min max greedy x, loop min' max' greedy' y =>
      min == min' && max == max' && greedy == greedy' && x.same y
  | _, _ => false

/-- Whether two lists hold the same expressions. -/
def sameAll : List Expr → List Expr → Bool
  | [], [] => true
  | x :: xs, y :: ys => x.same y && sameAll xs ys
  | _, _ => false

end

mutual

/-- Whether the expression can only match the empty text. -/
def zeroWidth : Expr → Bool
  | empty => true
  | literal text => text.isEmpty
  | chars _ => false
  | look _ => true
  | seq items => zeroWidthAll items
  | alt branches => zeroWidthAll branches
  | group _ body => body.zeroWidth
  | loop _ _ _ body => body.zeroWidth

/-- Whether all of the expressions can only match the empty text. -/
def zeroWidthAll : List Expr → Bool
  | [] => true
  | e :: es => e.zeroWidth && zeroWidthAll es

end

mutual

/-- The number of parts of the expression. -/
def weight : Expr → Nat
  | empty => 1
  | literal _ => 1
  | chars _ => 1
  | look _ => 1
  | seq items => weightAll items + 1
  | alt branches => weightAll branches + 1
  | group _ body => body.weight + 1
  | loop _ _ _ body => body.weight + 1

/-- The number of parts of the expressions. -/
def weightAll : List Expr → Nat
  | [] => 0
  | e :: es => e.weight + weightAll es

end

mutual

/-- The greatest number of a group in the expression, or zero. -/
def captures : Expr → Nat
  | empty => 0
  | literal _ => 0
  | chars _ => 0
  | look _ => 0
  | seq items => capturesAll items
  | alt branches => capturesAll branches
  | group index body => max index body.captures
  | loop _ _ _ body => body.captures

/-- The greatest number of a group in the expressions, or zero. -/
def capturesAll : List Expr → Nat
  | [] => 0
  | e :: es => max e.captures (capturesAll es)

end

/-! ### Sets and sequences -/

/-- The expression of one character of a set. -/
def ofSet (s : CodeSet) : Expr :=
  match s.characters.ranges with
  | [(low, high)] => if low = high then literal [Char.ofNat low] else chars ⟨[(low, high)]⟩
  | ranges => chars ⟨ranges⟩

/-- The expression that matches nothing. -/
def never : Expr := chars .empty

/-- The items of an expression as a sequence. -/
def items : Expr → List Expr
  | empty => []
  | seq es => es
  | e => [e]

/-- Puts an item before others, joining texts. -/
def pushItem (e : Expr) (others : List Expr) : List Expr :=
  match e, others with
  | literal a, literal b :: more => literal (a ++ b) :: more
  | _, _ => e :: others

/-- The expressions one after the other. -/
def sequence (es : List Expr) : Expr :=
  match (es.flatMap items).foldr pushItem [] with
  | [] => empty
  | [e] => e
  | joined => seq joined

/-! ### Alternatives -/

/-- The alternatives of an expression. -/
def branches : Expr → List Expr
  | alt es => es
  | e => [e]

/-- The character of a text of one character. -/
def character? : Expr → Option Char
  | literal [c] => some c
  | _ => none

/-- The set of a set expression. -/
def set? : Expr → Option CodeSet
  | chars s => some s
  | _ => none

/-- The one set that alternatives make if they are all single characters or all sets. -/
def joinedSet? (es : List Expr) : Option CodeSet :=
  match es.mapM character? with
  | some cs => some (.ofCodes (cs.map Char.toNat))
  | none => (es.mapM set?).map .unions

/-- The items of a sequence. -/
def sequenceItems? : Expr → Option (List Expr)
  | seq es => some es
  | _ => none

/-- The number of items that two sequences both start with. -/
def sharedCount : List Expr → List Expr → Nat
  | x :: xs, y :: ys => if x.same y then sharedCount xs ys + 1 else 0
  | _, _ => 0

/-- The items that sequences all start with, and what is left of each sequence. -/
def sharedStart? (es : List Expr) : Option (List Expr × List Expr) :=
  match es.mapM sequenceItems? with
  | some (first :: others) =>
      let shared := others.foldl (fun front ys => front.take (sharedCount front ys)) first
      if shared.isEmpty then none
      else some (shared, (first :: others).map fun ys => sequence (ys.drop shared.length))
  | _ => none

/-- The expressions as alternatives, with shared items taken out up to `fuel` times. -/
def choiceWith (fuel : Nat) (es : List Expr) : Expr :=
  match es.flatMap branches with
  | [] => never
  | [e] => e
  | flat =>
      match joinedSet? flat with
      | some s => ofSet s
      | none =>
          match fuel, sharedStart? flat with
          | n + 1, some (shared, rests) => sequence (shared ++ [choiceWith n rests])
          | _, _ => alt flat

/-- The expressions as alternatives, the first one preferred. What is left of them when shared items
are taken out has fewer parts, so the number of parts is fuel enough. -/
def choice (es : List Expr) : Expr := choiceWith (weightAll es) es

/-! ### Loops -/

/-- The loop with the given bounds, without rounds that cannot matter. -/
def repeated (min : Nat) (max : Option Nat) (greedy : Bool) (body : Expr) : Expr :=
  let low := if body.zeroWidth then Nat.min min 1 else min
  let high := if body.zeroWidth then some (Nat.min (max.getD 1) 1) else max
  if low = 0 ∧ high = some 0 then empty
  else if low = 1 ∧ high = some 1 then body
  else loop low high greedy body

end Expr

end BannerMatch.Pattern
