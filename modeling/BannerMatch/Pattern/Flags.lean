import BannerMatch.Pattern.Expr
import BannerMatch.Unicode.CaseFolding
import BannerMatch.Unicode.Property

/-!
# Applying flags

`Ast.expr?` turns a syntax tree into an expression. Flags are carried from item to item: a change
lasts to the end of the group it stands in, also across the bars of an alternation.

Outside Unicode mode only sets of ASCII characters can be written, so a negated class, a dot, a
property and a byte above `0x7F` are refused there.
-/

namespace BannerMatch.Pattern

/-- The flags that govern an item. -/
structure Flags where
  ignoreCase : Bool := false
  multiLine : Bool := false
  dotAll : Bool := false
  swapGreed : Bool := false
  unicode : Bool := true
  crlf : Bool := false
deriving DecidableEq, Repr

/-- The flags after a change. -/
def Flags.apply (f : Flags) (change : FlagChange) : Flags where
  ignoreCase := (change.value? .ignoreCase).getD f.ignoreCase
  multiLine := (change.value? .multiLine).getD f.multiLine
  dotAll := (change.value? .dotAll).getD f.dotAll
  swapGreed := (change.value? .swapGreed).getD f.swapGreed
  unicode := (change.value? .unicode).getD f.unicode
  crlf := (change.value? .crlf).getD f.crlf

/-! ### Sets -/

/-- The ASCII letters that are members but for case, added to the set. -/
def foldAscii (s : CodeSet) : CodeSet :=
  let lower := (List.range 26).filter fun k =>
    s.containsCode (0x61 + k) || s.containsCode (0x41 + k)
  s.union (.ofCodes (lower.map (0x41 + ·) ++ lower.map (0x61 + ·)))

/-- Adds what differs from a member in case only, when case is ignored. -/
def Flags.fold (f : Flags) (s : CodeSet) : CodeSet :=
  if f.ignoreCase then if f.unicode then s.foldCase else foldAscii s else s

/-- The set or its complement; outside Unicode mode there is no complement. -/
def Flags.negate? (f : Flags) (negated : Bool) (s : CodeSet) : Option CodeSet :=
  if negated then if f.unicode then some s.compl else none else some s

/-- The characters of a named class. -/
def AsciiClass.set : AsciiClass → CodeSet
  | .alnum => ⟨[(0x30, 0x39), (0x41, 0x5A), (0x61, 0x7A)]⟩
  | .alpha => ⟨[(0x41, 0x5A), (0x61, 0x7A)]⟩
  | .ascii => ⟨[(0, 0x7F)]⟩
  | .blank => ⟨[(0x9, 0x9), (0x20, 0x20)]⟩
  | .cntrl => ⟨[(0, 0x1F), (0x7F, 0x7F)]⟩
  | .digit => ⟨[(0x30, 0x39)]⟩
  | .graph => ⟨[(0x21, 0x7E)]⟩
  | .lower => ⟨[(0x61, 0x7A)]⟩
  | .print => ⟨[(0x20, 0x7E)]⟩
  | .punct => ⟨[(0x21, 0x2F), (0x3A, 0x40), (0x5B, 0x60), (0x7B, 0x7E)]⟩
  | .space => ⟨[(0x9, 0xD), (0x20, 0x20)]⟩
  | .upper => ⟨[(0x41, 0x5A)]⟩
  | .word => ⟨[(0x30, 0x39), (0x41, 0x5A), (0x5F, 0x5F), (0x61, 0x7A)]⟩
  | .xdigit => ⟨[(0x30, 0x39), (0x41, 0x46), (0x61, 0x66)]⟩

/-- The characters of a class with a one-letter escape. -/
def PerlClass.set (unicode : Bool) : PerlClass → CodeSet
  | .digit => if unicode then Unicode.digit else AsciiClass.digit.set
  | .space => if unicode then Text.blanks else AsciiClass.space.set
  | .word => if unicode then Unicode.word else AsciiClass.word.set

/-- The characters that a property name stands for, if there is such a property. -/
def PropertyName.set? : PropertyName → Option CodeSet
  | .lone name => Unicode.property? name
  | .valued _ name value => Unicode.propertyValue? name value

/-- Whether the name itself asks for the characters without the property. -/
def PropertyName.differs : PropertyName → Bool
  | .lone _ => false
  | .valued differs _ _ => differs

/-- The set of a one-letter class. -/
def Flags.perl? (f : Flags) (c : PerlClass) (negated : Bool) : Option CodeSet :=
  f.negate? negated (c.set f.unicode)

/-- The set of a property. -/
def Flags.property? (f : Flags) (p : PropertyName) (negated : Bool) : Option CodeSet :=
  if f.unicode then p.set?.bind fun s => f.negate? (negated != p.differs) (f.fold s) else none

/-- The character that a literal of a class stands for. -/
def Flags.classChar? (f : Flags) (l : Literal) : Option Nat :=
  if f.unicode || l.char.toNat < 128 then some l.char.toNat else none

/-- The set that an operation makes of two sets. -/
def SetOp.apply : SetOp → CodeSet → CodeSet → CodeSet
  | .inter => .inter
  | .diff => .diff
  | .symmDiff => .symmDiff

mutual

/-- The set of the inside of a class. -/
def ClassSet.set? (f : Flags) : ClassSet → Option CodeSet
  | .literal l => (f.classChar? l).map .single
  | .range low high =>
      match f.classChar? low, f.classChar? high with
      | some l, some h => some (.range l h)
      | _, _ => none
  | .ascii c negated => f.negate? negated (f.fold c.set)
  | .perl c negated => f.perl? c negated
  | .property p negated => f.property? p negated
  | .bracket negated body =>
      match body.set? f with
      | some s => f.negate? negated (f.fold s)
      | none => none
  | .union items => ClassSet.unionSet? f items
  | .combine op left right =>
      match left.set? f, right.set? f with
      | some l, some r => some (op.apply (f.fold l) (f.fold r))
      | _, _ => none

/-- The union of the sets of the items. -/
def ClassSet.unionSet? (f : Flags) : List ClassSet → Option CodeSet
  | [] => some .empty
  | item :: items =>
      match item.set? f, ClassSet.unionSet? f items with
      | some s, some t => some (s.union t)
      | _, _ => none

end

/-! ### Expressions -/

/-- A literal outside brackets. -/
def Flags.literal? (f : Flags) (l : Literal) : Option Expr :=
  if f.unicode || l.char.toNat < 128 then some (.ofSet (f.fold (.single l.char.toNat)))
  else if l.byteForm then none
  else some (.literal [l.char])

/-- The dot. -/
def Flags.dot? (f : Flags) : Option Expr :=
  if !f.unicode then none
  else if f.dotAll then some (.ofSet .all)
  else if f.crlf then some (.ofSet (CodeSet.ofCodes [0xA, 0xD]).compl)
  else some (.ofSet (CodeSet.single 0xA).compl)

/-- An assertion. -/
def Flags.look (f : Flags) : Assertion → Look
  | .lineStart => if f.multiLine then if f.crlf then .crlfStart else .lineStart else .start
  | .lineEnd => if f.multiLine then if f.crlf then .crlfStop else .lineStop else .stop
  | .textStart => .start
  | .textEnd => .stop
  | .wordBoundary => .word !f.unicode
  | .notWordBoundary => .notWord !f.unicode
  | .wordStart => .wordStart !f.unicode
  | .wordEnd => .wordEnd !f.unicode
  | .wordStartHalf => .wordStartHalf !f.unicode
  | .wordEndHalf => .wordEndHalf !f.unicode

mutual

/-- The expression of a tree and the flags after it. -/
def Ast.exprWith (f : Flags) : Ast → Option (Expr × Flags)
  | .empty => some (.empty, f)
  | .flags change => some (.empty, f.apply change)
  | .literal l => (f.literal? l).map (·, f)
  | .dot => f.dot?.map (·, f)
  | .assertion a => some (.look (f.look a), f)
  | .perl c negated => (f.perl? c negated).map fun s => (.ofSet s, f)
  | .property p negated => (f.property? p negated).map fun s => (.ofSet s, f)
  | .bracket negated body =>
      match body.set? f with
      | some s => (f.negate? negated (f.fold s)).map fun t => (.ofSet t, f)
      | none => none
  | .loop min max greedy body =>
      match body.exprWith f with
      | some (e, f') => some (.repeated min max (greedy != f'.swapGreed) e, f')
      | none => none
  | .capture index body =>
      match body.exprWith f with
      | some (e, _) => some (.group index e, f)
      | none => none
  | .group change body =>
      match body.exprWith (f.apply change) with
      | some (e, _) => some (e, f)
      | none => none
  | .concat items => (Ast.exprsWith f items).map fun p => (.sequence p.1, p.2)
  | .alternate branches => (Ast.exprsWith f branches).map fun p => (.choice p.1, p.2)

/-- The expressions of the trees one after the other, and the flags after them. -/
def Ast.exprsWith (f : Flags) : List Ast → Option (List Expr × Flags)
  | [] => some ([], f)
  | item :: items =>
      match item.exprWith f with
      | none => none
      | some (e, f') => (Ast.exprsWith f' items).map fun p => (e :: p.1, p.2)

end

/-- The expression of a pattern read with the default flags. -/
def Ast.expr? (ast : Ast) : Option Expr := (ast.exprWith {}).map Prod.fst

end BannerMatch.Pattern
