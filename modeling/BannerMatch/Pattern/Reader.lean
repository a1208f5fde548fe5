import BannerMatch.Pattern.Bracket
import BannerMatch.Unicode.Additions

/-!
# Reading patterns

`Ast.read?` turns the text of a pattern into its syntax tree, or refuses it. The reader holds the
items of the innermost open group and a `Frame` for each group around it; `readerStep` takes one
item, one repetition sign, one bar or one parenthesis.
-/

namespace BannerMatch.Pattern

/-- What a group does besides enclosing its body. -/
inductive GroupKind
  | capture (index : Nat)
  | plain (change : FlagChange)

/-- A group that is open, with what was read before it at its level. -/
structure Frame where
  kind : GroupKind
  /-- Whether verbose mode was on before the group. -/
  verbose : Bool
  /-- The items before the group in its branch, last first. -/
  items : List Ast
  /-- The branches before that one, last first. -/
  branches : List Ast

/-- The reader between two steps. -/
structure Reader where
  verbose : Bool := false
  /-- The number of capturing groups opened so far. -/
  captures : Nat := 0
  /-- The names of capturing groups used so far. -/
  names : List (List Char) := []
  /-- The items of the branch being read, last first. -/
  items : List Ast := []
  /-- The finished branches of the group being read, last first. -/
  branches : List Ast := []
  /-- The groups that are open, innermost first. -/
  frames : List Frame := []

/-- Adds an item to the branch being read. -/
def Reader.push (r : Reader) (item : Ast) : Reader := { r with items := item :: r.items }

/-- What the innermost group has read, as one tree. -/
def Reader.body (r : Reader) : Ast :=
  Ast.ofBranches (Ast.ofItems r.items.reverse :: r.branches).reverse

/-! ### Groups -/

/-- The characters that can start the name of a group. -/
def startsName (c : Char) : Bool := c == '_' || Unicode.nameLetter.contains c

/-- The characters that can follow in the name of a group. -/
def continuesName (c : Char) : Bool :=
  c == '_' || c == '.' || c == '[' || c == ']' || Unicode.nameLetter.contains c ||
    Unicode.nameNumeral.contains c

/-- Whether a text is the name of a group. -/
def isGroupName : List Char → Bool
  | [] => false
  | c :: rest => startsName c && rest.all continuesName

/-- The flag of a letter. -/
def flag? (c : Char) : Option Flag :=
  match c with
  | 'i' => some .ignoreCase
  | 'm' => some .multiLine
  | 's' => some .dotAll
  | 'U' => some .swapGreed
  | 'u' => some .unicode
  | 'R' => some .crlf
  | 'x' => some .verbose
  | _ => none

/-- Reads letters of flags up to a colon or a closing parenthesis, which is given back with the text
after it. A hyphen, once and not last, turns off what follows it; no letter comes twice. -/
def readFlags (negated : Option Bool) (change : FlagChange) :
    List Char → Option (FlagChange × Char × List Char)
  | [] => none
  | c :: rest =>
      if c == ':' || c == ')' then
        if negated == some true then none else some (change, c, rest)
      else if c = '-' then
        if negated.isSome then none else readFlags (some true) change rest
      else
        match flag? c with
        | none => none
        | some f =>
            if change.any fun p => p.1 == f then none
            else readFlags (negated.map fun _ => false) (change ++ [(f, negated.isNone)]) rest

/-- The signs after an opening parenthesis that ask for a look-around, which no pattern has. -/
def lookaroundSigns : List (List Char) :=
  [['?', '='], ['?', '!'], ['?', '<', '='], ['?', '<', '!']]

/-- Starts a group. -/
def Reader.enter (r : Reader) (kind : GroupKind) (verbose : Bool) : Reader :=
  { r with
    verbose := verbose
    items := []
    branches := []
    frames := ⟨kind, r.verbose, r.items, r.branches⟩ :: r.frames }

/-- Starts a group that captures. -/
def Reader.enterCapture (r : Reader) : Reader :=
  { r.enter (.capture (r.captures + 1)) r.verbose with captures := r.captures + 1 }

/-- Starts a group with a name, which stands before the first closing angle bracket. -/
def Reader.enterNamed (r : Reader) (cs : List Char) : Option (Reader × List Char) := do
  let p ← splitAtMark ['>'] cs
  if isGroupName p.1 && !r.names.contains p.1 then
    some ({ r.enterCapture with names := p.1 :: r.names }, p.2)
  else none

/-- Reads a group or a change of flags after its parenthesis. -/
def Reader.openGroup (r : Reader) (cs : List Char) : Option (Reader × List Char) :=
  let cs := skipVerbose r.verbose cs
  if lookaroundSigns.any fun sign => sign.isPrefixOf cs then none
  else match cs with
    | '?' :: 'P' :: '<' :: rest => r.enterNamed rest
    | '?' :: '<' :: rest => r.enterNamed rest
    | '?' :: rest =>
        match readFlags none [] rest with
        | none => none
        | some (change, last, after) =>
            let verbose := (change.value? .verbose).getD r.verbose
            if last = ':' then some (r.enter (.plain change) verbose, after)
            else if change.isEmpty then none
            else some ({ r.push (.flags change) with verbose := verbose }, after)
    | _ => some (r.enterCapture, cs)

/-- Ends the innermost group. -/
def Reader.closeGroup (r : Reader) : Option Reader :=
  match r.frames with
  | [] => none
  | f :: frames =>
      let group := match f.kind with
        | .capture index => Ast.capture index r.body
        | .plain change => Ast.group change r.body
      some { r with
        verbose := f.verbose
        items := group :: f.items
        branches := f.branches
        frames := frames }

/-- Ends a branch and starts the next one. -/
def Reader.bar (r : Reader) : Reader :=
  { r with items := [], branches := Ast.ofItems r.items.reverse :: r.branches }

/-! ### Repetitions -/

/-- Reads a number below the bound, with white space around it. -/
def readNumber (cs : List Char) : Option Nat := do
  let ds ← (Text.trim cs).mapM digit?
  if ds.isEmpty then none
  else
    let n := ofDigits 10 ds
    if n < numberBound then some n else none

/-- Reads the contents of the braces of a repetition: `n`, `n,` or `n,m` with `n ≤ m`. -/
def readBounds (content : List Char) : Option (Nat × Option Nat) :=
  match splitAtMark [','] content with
  | none => (readNumber content).map fun n => (n, some n)
  | some (low, high) => do
      let n ← readNumber low
      if high.isEmpty then some (n, none)
      else
        let m ← readNumber high
        if n ≤ m then some (n, some m) else none

/-- Repeats the last item; there must be one, and it must not be a change of flags. -/
def Reader.repeatLast (r : Reader) (min : Nat) (max : Option Nat) (greedy : Bool) :
    Option Reader :=
  match r.items with
  | [] => none
  | .flags _ :: _ => none
  | last :: items => some { r with items := .loop min max greedy last :: items }

/-- Repeats the last item; a question mark right after the sign makes the repetition lazy. -/
def Reader.repeatSign (r : Reader) (min : Nat) (max : Option Nat) (rest : List Char) :
    Option (Reader × List Char) :=
  match rest with
  | '?' :: after => (r.repeatLast min max false).map fun r => (r, after)
  | _ => (r.repeatLast min max true).map fun r => (r, rest)

/-- Repeats the last item as often as the braces say. -/
def Reader.repeatBraces (r : Reader) (cs : List Char) : Option (Reader × List Char) := do
  let p ← splitBraced r.verbose false cs
  let bounds ← readBounds p.1
  r.repeatSign bounds.1 bounds.2 (skipVerbose r.verbose p.2)

/-! ### The reader -/

/-- A primitive as an item of a pattern. -/
def Primitive.item : Primitive → Ast
  | .literal l => .literal l
  | .perl c negated => .perl c negated
  | .property p negated => .property p negated
  | .assertion a => .assertion a

/-- Takes the next part of a pattern, which is `c` followed by `rest`; `fuel` is greater than the
number of characters in `rest`. -/
def readerStep (fuel : Nat) (r : Reader) (c : Char) (rest : List Char) :
    Option (Reader × List Char) :=
  match c with
  | '(' => r.openGroup rest
  | ')' => r.closeGroup.map fun r => (r, rest)
  | '|' => some (r.bar, rest)
  | '[' => (readBracket fuel r.verbose rest).map fun p => (r.push p.1, p.2)
  | '?' => r.repeatSign 0 (some 1) rest
  | '*' => r.repeatSign 0 none rest
  | '+' => r.repeatSign 1 none rest
  | '{' => r.repeatBraces rest
  | '\\' => (readEscape r.verbose rest).map fun p => (r.push p.1.item, p.2)
  | '.' => some (r.push .dot, rest)
  | '^' => some (r.push (.assertion .lineStart), rest)
  | '$' => some (r.push (.assertion .lineEnd), rest)
  | _ => some (r.push (.literal { char := c }), rest)

/-- Takes up to `fuel` steps, more than there are characters; the pattern ends where no group is
open. -/
def readAst : Nat → Reader → List Char → Option Ast
  | 0, _, _ => none
  | fuel + 1, r, cs =>
      match skipVerbose r.verbose cs with
      | [] => if r.frames.isEmpty then some r.body else none
      | c :: rest =>
          match readerStep fuel r c rest with
          | none => none
          | some (r', rest') => readAst fuel r' rest'

/-- The syntax tree of a pattern. Every step takes at least one character, so there are enough of
them. -/
def Ast.read? (cs : List Char) : Option Ast :=
  match readAst (cs.length + 1) {} cs with
  | none => none
  | some ast => if ast.depth ≤ Ast.maxDepth then some ast else none

end BannerMatch.Pattern
