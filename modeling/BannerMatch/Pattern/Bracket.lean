import BannerMatch.Pattern.Escape

/-!
# Bracketed classes

The reader of `[...]`. It keeps one `Level` for each bracket that is open and takes one item, one
operation or one bracket at a time.

* A level starts with an optional `^`, then hyphens and, if there were none, a `]` that stand for
  themselves (`Level.opening`).
* The operations `&&`, `--` and `~~` bind less than union, have equal strength and group to the
  left.
* `readBracket` reads a class from the character after its first bracket.
-/

namespace BannerMatch.Pattern

/-- A bracket that is open. -/
structure Level where
  /-- Whether the bracket started with `^`. -/
  negated : Bool
  /-- Whether nothing but hyphens has been read yet. -/
  opening : Bool := true
  /-- The operation whose right operand is being read, with its left operand. -/
  pending : Option (SetOp × ClassSet) := none
  /-- The items read so far, last first. -/
  items : List ClassSet := []

/-- Adds an item to the level. -/
def Level.push (l : Level) (item : ClassSet) : Level :=
  { l with opening := false, items := item :: l.items }

/-- What the level stands for if it ends here. -/
def Level.body (l : Level) : ClassSet :=
  let last := ClassSet.ofItems l.items.reverse
  match l.pending with
  | some (op, left) => .combine op left last
  | none => last

/-- Turns what has been read into the left operand of an operation. -/
def Level.operate (l : Level) (op : SetOp) : Level :=
  { l with opening := false, pending := some (op, l.body), items := [] }

/-- Starts a level after its bracket. -/
def openLevel (verbose : Bool) (cs : List Char) : Level × List Char :=
  match skipVerbose verbose cs with
  | '^' :: rest => ({ negated := true }, rest)
  | rest => ({ negated := false }, rest)

/-! ### Named classes -/

/-- The named class of a given name. -/
def asciiClass? (name : List Char) : Option AsciiClass :=
  match String.ofList name with
  | "alnum" => some .alnum
  | "alpha" => some .alpha
  | "ascii" => some .ascii
  | "blank" => some .blank
  | "cntrl" => some .cntrl
  | "digit" => some .digit
  | "graph" => some .graph
  | "lower" => some .lower
  | "print" => some .print
  | "punct" => some .punct
  | "space" => some .space
  | "upper" => some .upper
  | "word" => some .word
  | "xdigit" => some .xdigit
  | _ => none

/-- Reads the rest of `[:name:]` after its first bracket, if it is a named class. -/
def readNamedClass (cs : List Char) : Option (ClassSet × List Char) :=
  match cs with
  | ':' :: rest =>
      let negated := rest.head? == some '^'
      let body := if negated then rest.drop 1 else rest
      match splitAtMark [':'] body with
      | some (name, ']' :: after) => (asciiClass? name).map fun c => (.ascii c negated, after)
      | _ => none
  | _ => none

/-! ### Items and ranges -/

/-- Reads one character or escape of a class. -/
def readClassPrimitive (verbose : Bool) : List Char → Option (Primitive × List Char)
  | [] => none
  | '\\' :: rest => readEscape verbose rest
  | c :: rest => some (.literal { char := c }, rest)

/-- A primitive as an item of a class; an assertion is none. -/
def Primitive.classItem? : Primitive → Option ClassSet
  | .literal l => some (.literal l)
  | .perl c negated => some (.perl c negated)
  | .property p negated => some (.property p negated)
  | .assertion _ => none

/-- A primitive as an end of a range. -/
def Primitive.literal? : Primitive → Option Literal
  | .literal l => some l
  | _ => none

/-- The character that decides whether the hyphen before `cs` makes a range. In verbose mode white
space before it is passed over, and so is one comment sign. -/
def afterHyphen (verbose : Bool) (cs : List Char) : Option Char :=
  if verbose then
    match Text.trimStart cs with
    | '#' :: rest => (Text.trimStart rest).head?
    | rest => rest.head?
  else cs.head?

/-- Reads a character, an escape or a range. A hyphen before a closing bracket or before another
hyphen makes no range. -/
def readClassItem (verbose : Bool) (cs : List Char) : Option (ClassSet × List Char) := do
  let first ← readClassPrimitive verbose cs
  match skipVerbose verbose first.2 with
  | '-' :: rest =>
      let after := afterHyphen verbose rest
      if after == some ']' || after == some '-' then
        let item ← first.1.classItem?
        return (item, '-' :: rest)
      else
        let second ← readClassPrimitive verbose (skipVerbose verbose rest)
        let low ← first.1.literal?
        let high ← second.1.literal?
        if low.char ≤ high.char then return (.range low high, second.2) else none
  | rest =>
      let item ← first.1.classItem?
      return (item, rest)

/-! ### Levels -/

/-- The result of one step: the class is finished, or reading goes on. -/
inductive BracketStep
  | done (negated : Bool) (body : ClassSet) (rest : List Char)
  | next (level : Level) (outer : List Level) (rest : List Char)

/-- Takes the next part of a class, which is `c` followed by `rest`. -/
def bracketStep (verbose : Bool) (level : Level) (outer : List Level) (c : Char)
    (rest : List Char) : Option BracketStep :=
  if level.opening && c == '-' then
    some (.next { level with items := .literal { char := '-' } :: level.items } outer rest)
  else if level.opening && level.items.isEmpty && c == ']' then
    some (.next (level.push (.literal { char := ']' })) outer rest)
  else if c = '[' then
    match readNamedClass rest with
    | some (item, after) => some (.next (level.push item) outer after)
    | none =>
        let inner := openLevel verbose rest
        some (.next inner.1 (level :: outer) inner.2)
  else if c = ']' then
    match outer with
    | [] => some (.done level.negated level.body rest)
    | parent :: outer' =>
        some (.next (parent.push (.bracket level.negated level.body)) outer' rest)
  else if c == '&' && rest.head? == some '&' then
    some (.next (level.operate .inter) outer (rest.drop 1))
  else if c == '-' && rest.head? == some '-' then
    some (.next (level.operate .diff) outer (rest.drop 1))
  else if c == '~' && rest.head? == some '~' then
    some (.next (level.operate .symmDiff) outer (rest.drop 1))
  else
    (readClassItem verbose (c :: rest)).map fun p => .next (level.push p.1) outer p.2

/-- Takes up to `fuel` steps. -/
def readLevels (verbose : Bool) :
    Nat → Level → List Level → List Char → Option (Ast × List Char)
  | 0, _, _, _ => none
  | fuel + 1, level, outer, cs =>
      match skipVerbose verbose cs with
      | [] => none
      | c :: rest =>
          match bracketStep verbose level outer c rest with
          | none => none
          | some (.done negated body after) => some (.bracket negated body, after)
          | some (.next level' outer' after) => readLevels verbose fuel level' outer' after

/-- Reads a class from the character after its first bracket. Every step takes at least one
character, so there are enough of them if there are more than characters. -/
def readBracket (fuel : Nat) (verbose : Bool) (cs : List Char) : Option (Ast × List Char) :=
  let first := openLevel verbose cs
  readLevels verbose fuel first.1 [] first.2

end BannerMatch.Pattern
