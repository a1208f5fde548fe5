import BannerMatch.Pattern.Look

/-!
# Programs

An expression compiled to labelled instructions. Each instruction names the label of what follows,
and a branch names the preferred label first.

* `Code.build` puts the code of an expression in front of a label that is already there, so a
  program grows from its end. A loop sets its branch first and fills it in when its body is there.
* Label `0` accepts.

The text that an expression prefers is the one of the first run in the order of preference. A loop
`x*` is compiled as `(x+)?`: a round that takes no character goes on behind the loop.
-/

namespace BannerMatch.Pattern

/-- One instruction. -/
inductive Instr
  | accept
  | chars (s : CodeSet) (next : Nat)
  | look (l : Look) (next : Nat)
  | branch (first second : Nat)
  | enter (index next : Nat)
  | leave (index next : Nat)

/-- Instructions by label. -/
abbrev Code := Array Instr

/-- A label, and the code that has it. -/
abbrev Entry := Nat × Code

namespace Code

/-- Adds an instruction; its label is the old size. -/
def add (code : Code) (i : Instr) : Entry := (code.size, code.push i)

/-- A branch into `body` or out to `out`, the body preferred by a greedy loop. -/
def fork (greedy : Bool) (body out : Nat) : Instr :=
  if greedy then .branch body out else .branch out body

/-- Applies a step `n` times. -/
def iterate (step : Entry → Entry) : Nat → Entry → Entry
  | 0, e => e
  | n + 1, e => iterate step n (step e)

/-- The code of `body` for one round or more, in front of `out`. -/
def rounds (greedy : Bool) (body : Entry → Entry) : Entry → Entry
  | (out, code) =>
      let back := code.size
      match body (back, code.push .accept) with
      | (start, code) => (start, code.setIfInBounds back (fork greedy start out))

/-- A branch around code, in front of `out`. -/
def optionally (greedy : Bool) (out : Nat) : Entry → Entry
  | (start, code) => code.add (fork greedy start out)

/-- The code of `body` for at most `n` rounds, in front of `out`. -/
def optional (greedy : Bool) (body : Entry → Entry) (n : Nat) : Entry → Entry
  | (out, code) => iterate (fun e => optionally greedy out (body e)) n (out, code)

/-- The code of `body` for any number of rounds from `min` on, in front of `out`. -/
def atLeast (greedy : Bool) (body : Entry → Entry) (min : Nat) : Entry → Entry
  | (out, code) =>
      let last := rounds greedy body (out, code)
      if min = 0 then optionally greedy out last else iterate body (min - 1) last

/-- Puts code that takes a text in front of a label. -/
def spell (text : List Char) (out : Entry) : Entry :=
  text.foldr (fun c e => e.2.add (.chars (.single c.toNat) e.1)) out

/-- The code of a group with its body. -/
def enclose (index : Nat) (body : Entry → Entry) : Entry → Entry
  | (out, code) =>
      match body (code.add (.leave index out)) with
      | (start, code) => code.add (.enter index start)

mutual

/-- Puts the code of an expression in front of a label. -/
def build : Expr → Entry → Entry
  | .empty, out => out
  | .literal text, out => spell text out
  | .chars s, (out, code) => code.add (.chars s out)
  | .look l, (out, code) => code.add (.look l out)
  | .seq items, out => buildSeq items out
  | .alt branches, out => buildAlt branches out
  | .group index body, out => enclose index (build body) out
  | .loop min none greedy body, out => atLeast greedy (build body) min out
  | .loop min (some max) greedy body, out =>
      iterate (build body) min (optional greedy (build body) (max - min) out)

/-- Puts the code of expressions, one after the other, in front of a label. -/
def buildSeq : List Expr → Entry → Entry
  | [], out => out
  | [e], out => build e out
  | e :: es, out => build e (buildSeq es out)

/-- Puts the code of alternatives in front of a label. -/
def buildAlt : List Expr → Entry → Entry
  | [], (out, code) => code.add (.chars .empty out)
  | [e], out => build e out
  | e :: es, (out, code) =>
      match buildAlt es (out, code) with
      | (others, code) =>
          match build e (out, code) with
          | (first, code) => code.add (.branch first others)

end

/-- The program of an expression: code that accepts behind it. -/
def ofExpr (e : Expr) : Entry := build e (0, #[.accept])

end Code

end BannerMatch.Pattern
