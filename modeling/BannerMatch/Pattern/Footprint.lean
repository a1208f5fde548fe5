import BannerMatch.Pattern.ByteRange
import BannerMatch.Pattern.Expr
import Std.Data.HashMap

/-!
# Memory of patterns

How much memory a pattern takes is that of two automata over the bytes of texts: a forward one, which
keeps track of groups, and a backward one, which finds where a match starts. A pattern is accepted
if both fit into `maxBytes` (`Expr.fits`).

* A `Tally` counts states and the bytes of the lists that states have: byte ranges (`edgeBytes`) and
  successors in order of preference (`linkBytes`).
* `Expr.lay` adds the states of an expression to a tally. A loop without an upper bound ends in a
  state that branches, which one more link goes out from when something follows.
* `layForward` adds the states of a set to the forward automaton. Parts with the same edges are
  shared, as far as they are remembered.
* `layBackward` adds those of the backward automaton, in which sequences of byte ranges share what
  they start with.
* `layWords` adds those of alternatives that are all texts: a tree of the texts.

What has been built is remembered in a table of bounded size (`Memory`): a new entry takes the place
of an older one with the same hash, so a part can come to be built again.
-/

namespace BannerMatch.Pattern

/-! ### Tallies -/

/-- The memory that an automaton may take. -/
def maxBytes : Nat := 4194304

/-- The memory of a state without its lists. -/
def stateBytes : Nat := 32

/-- The memory of a byte range with its target. -/
def edgeBytes : Nat := 8

/-- The memory of a link to a successor. -/
def linkBytes : Nat := 4

/-- What an automaton takes. -/
structure Tally where
  states : Nat := 0
  /-- The bytes of the lists of all states. -/
  listBytes : Nat := 0
deriving DecidableEq, Repr

namespace Tally

/-- The memory of the automaton. -/
def bytes (t : Tally) : Nat := stateBytes * t.states + t.listBytes

/-- Whether the automaton takes too much. -/
def isFull (t : Tally) : Bool := maxBytes < t.bytes

/-- Adds states without lists. -/
def addStates (t : Tally) (n : Nat) : Tally := { t with states := t.states + n }

/-- Adds links to lists. -/
def addLinks (t : Tally) (n : Nat) : Tally := { t with listBytes := t.listBytes + linkBytes * n }

/-- Adds a state with byte ranges. -/
def addEdges (t : Tally) (n : Nat) : Tally :=
  { states := t.states + 1, listBytes := t.listBytes + edgeBytes * n }

end Tally

/-- A part of an automaton that has been added last. -/
structure Part where
  tally : Tally
  /-- Whether it ends in a state that branches. -/
  branching : Bool := false
deriving DecidableEq, Repr

/-- The tally when something follows the part. -/
def Part.join (p : Part) : Tally := if p.branching then p.tally.addLinks 1 else p.tally

/-! ### What is remembered -/

/-- One step of a hash. -/
def mixHash (h : UInt64) (n : Nat) : UInt64 := (h ^^^ n.toUInt64) * 1099511628211

/-- The hash of a list of numbers. -/
def hashNumbers (ns : List Nat) : UInt64 := ns.foldl mixHash 14695981039346656037

/-- States that have been built, by the hashes of what they were built from, with the numbers that
they were built from. -/
abbrev Memory := Std.HashMap Nat (List Nat × Nat)

/-- The state that was built from `key`, if that is remembered in the given slot. -/
def Memory.find? (m : Memory) (slot : Nat) (key : List Nat) : Option Nat :=
  match m.get? slot with
  | some (known, state) => if known == key then some state else none
  | none => none

/-- The automaton while the states of a set are added. -/
structure Build where
  tally : Tally
  memory : Memory := {}

/-- The number of slots for the states of a forward automaton. -/
def forwardSlots : Nat := 10000

/-- The number of slots for the states of a backward automaton. -/
def backwardSlots : Nat := 1000

/-! ### Sets -/

/-- A byte range with its target. -/
structure Edge where
  range : ByteRange
  target : Nat

/-- The numbers of an edge. -/
def Edge.numbers (e : Edge) : List Nat := [e.range.1, e.range.2, e.target]

/-- The state with the given edges: a remembered one, or a new one. -/
def Build.state (b : Build) (edges : List Edge) : Nat × Build :=
  let key := edges.flatMap Edge.numbers
  let slot := (hashNumbers key).toNat % forwardSlots
  match b.memory.find? slot key with
  | some state => (state, b)
  | none =>
      let state := b.tally.states
      (state, ⟨b.tally.addEdges edges.length, b.memory.insert slot (key, state)⟩)

/-- Puts a sequence before groups of sequences that start with the same range. -/
def groupSequence (sequence : List ByteRange) (groups : List (ByteRange × List (List ByteRange))) :
    List (ByteRange × List (List ByteRange)) :=
  match sequence, groups with
  | [], _ => groups
  | r :: rest, [] => [(r, [rest])]
  | r :: rest, (r', rests) :: others =>
      if r = r' then (r, rest :: rests) :: others else (r, [rest]) :: groups

/-- The state from which sequences lead to the state `goal`, with what is built for it. No sequence
is longer than `depth`. -/
def layNode (goal : Nat) : Nat → List (List ByteRange) → Build → Nat × Build
  | 0, _, b => (goal, b)
  | depth + 1, sequences, b =>
      if sequences.all List.isEmpty then (goal, b)
      else
        let done := (sequences.foldr groupSequence []).foldl (fun (edges, b) g =>
          let next := layNode goal depth g.2 b
          (⟨g.1, next.1⟩ :: edges, next.2)) (([] : List Edge), b)
        done.2.state done.1.reverse

/-- Adds the states of a set to a forward automaton. -/
def layForward (s : CodeSet) (t : Tally) : Tally :=
  (layNode t.states 5 s.byteSequences ⟨t.addStates 1, {}⟩).2.tally

/-- Adds a byte range that leads on to a state, unless it is remembered; gives its state. -/
def Build.prepend (p : Nat × Build) (r : ByteRange) : Nat × Build :=
  let key := [p.1, r.1, r.2]
  let slot := (hashNumbers key).toNat % backwardSlots
  match p.2.memory.find? slot key with
  | some state => (state, p.2)
  | none =>
      let state := p.2.tally.states
      (state, ⟨p.2.tally.addStates 1, p.2.memory.insert slot (key, state)⟩)

/-- Adds the states of a set to a backward automaton. -/
def layBackward (s : CodeSet) (t : Tally) : Tally :=
  let goal := t.states + 1
  (s.byteSequences.foldl (fun b sequence =>
    let p := sequence.foldl Build.prepend (goal, b)
    { p.2 with tally := p.2.tally.addLinks 1 }) (⟨t.addStates 2, {}⟩ : Build)).tally

/-- Adds the states of a set. The ranges of a set of ASCII characters are the edges of one state. -/
def laySet (back : Bool) (s : CodeSet) (t : Tally) : Tally :=
  if s.ranges.all fun r => r.2 < 0x80 then (t.addStates 1).addEdges s.ranges.length
  else if back then layBackward s t
  else layForward s t

/-! ### Texts -/

/-- A word of bytes. -/
abbrev Word := List UInt8

/-- The words of a node of a tree between the places where it is the end of one. Such a place at the
start counts once. -/
def chunks (words : List Word) : List (List Word) :=
  let words := match words with
    | [] :: rest => [] :: rest.dropWhile List.isEmpty
    | words => words
  words.foldr (fun w done => match w, done with
    | [], _ => [] :: done
    | _, chunk :: others => (w :: chunk) :: others
    | _, [] => [[w]]) [[]]

/-- Puts what follows the byte `b` in a word into the group of that byte. -/
def groupRest (b : UInt8) (rest : Word) : List (UInt8 × List Word) → List (UInt8 × List Word)
  | [] => [(b, [rest])]
  | (b', rests) :: others =>
      if b = b' then (b, rest :: rests) :: others else (b', rests) :: groupRest b rest others

/-- The words of a chunk by their first bytes, without these. -/
def groupWords (words : List Word) : List (UInt8 × List Word) :=
  words.foldr (fun w groups => match w with
    | [] => groups
    | b :: rest => groupRest b rest groups) []

/-- Adds the states of one node: one for each chunk, and one that branches if there is more than one
way to go on. -/
def layChunks (parts : List (List Word)) (t : Tally) : Tally :=
  let groups := (parts.map fun words => (groupWords words).length).filter fun n => n != 0
  let links := groups.length + (parts.length - 1)
  let t := groups.foldl (fun t n => if n = 1 then t.addStates 1 else t.addEdges n) t
  if links < 2 then t else (t.addStates 1).addLinks links

/-- Adds the states of the nodes of a tree; every node is given by the words from there on. A node has
at least one byte of some word, so the number of bytes is fuel enough. -/
def layNodes : Nat → List (List Word) → Tally → Tally
  | 0, _, t => t
  | _, [], t => t
  | fuel + 1, words :: others, t =>
      if words.all List.isEmpty then layNodes fuel others t
      else
        let parts := chunks words
        let below := parts.flatMap fun words => (groupWords words).map Prod.snd
        layNodes fuel (below ++ others) (layChunks parts t)

/-- Adds the states of alternatives that are all texts. -/
def layWords (back : Bool) (texts : List (List Char)) (t : Tally) : Tally :=
  let words := texts.map fun cs => if back then (Text.encode cs).reverse else Text.encode cs
  let fuel := texts.foldl (fun n cs => n + Text.byteLength cs + 1) 1
  layNodes fuel [words] (t.addStates 1)

/-! ### Expressions -/

/-- Does a step a given number of times, as long as the memory suffices. -/
def repeatPart (step : Part → Part) : Nat → Part → Part
  | 0, p => p
  | n + 1, p => if p.tally.isFull then p else repeatPart step n (step p)

/-- Adds a part a given number of times, each one after the other. -/
def layExactly (body : Tally → Part) (n : Nat) (t : Tally) : Part :=
  if n = 0 then ⟨t.addStates 1, false⟩ else repeatPart (fun p => body p.join) n ⟨t, false⟩

/-- Adds a part for at least `min` rounds. A body that can be empty has a state before its first
round and one behind its last. -/
def layAtLeast (body : Tally → Part) (min : Nat) (nonempty : Bool) (t : Tally) : Part :=
  if min = 0 then
    if nonempty then ⟨(body (t.addStates 1)).join.addLinks 1, true⟩
    else ⟨((body t).join.addStates 3).addLinks 4, false⟩
  else ⟨((layExactly body min t).join.addStates 1).addLinks 1, true⟩

/-- Adds a part for at least `min` and at most `max` rounds, of which every one after the first `min`
can be left out with those after it. -/
def layBetween (body : Tally → Part) (min max : Nat) (t : Tally) : Part :=
  if min = 0 ∧ max = 1 then ⟨((body (t.addStates 1)).join.addStates 1).addLinks 2, false⟩
  else if min = max then layExactly body min t
  else
    let first := layExactly body min t
    let rounds := repeatPart (fun p => body ((p.join.addStates 1).addLinks 2)) (max - min)
      { first with tally := first.tally.addStates 1 }
    ⟨rounds.join, false⟩

namespace Expr

/-- The text of a text expression. -/
def text? : Expr → Option (List Char)
  | literal text => some text
  | _ => none

mutual

/-- The least number of characters that the expression takes, if it can match at all. -/
def minLength : Expr → Option Nat
  | empty => some 0
  | literal text => some text.length
  | chars s => if s.ranges.isEmpty then none else some 1
  | look _ => some 0
  | seq items => minLengthSeq items
  | alt branches => minLengthAlt branches
  | group _ body => body.minLength
  | loop min _ _ body => body.minLength.map fun n => n * min

/-- The least number of characters that the expressions take one after the other. -/
def minLengthSeq : List Expr → Option Nat
  | [] => some 0
  | e :: es =>
      match e.minLength, minLengthSeq es with
      | some m, some n => some (m + n)
      | _, _ => none

/-- The least number of characters that one of the expressions takes, if all can match. -/
def minLengthAlt : List Expr → Option Nat
  | [] => none
  | [e] => e.minLength
  | e :: es =>
      match e.minLength, minLengthAlt es with
      | some m, some n => some (Nat.min m n)
      | _, _ => none

end

mutual

/-- Adds the states of an expression. -/
def lay (back : Bool) : Expr → Tally → Part
  | empty, t => ⟨t.addStates 1, false⟩
  | literal text, t => ⟨t.addStates (Text.byteLength text), false⟩
  | chars s, t => ⟨laySet back s t, false⟩
  | look _, t => ⟨t.addStates 1, false⟩
  | seq items, t => laySeq back items ⟨t, false⟩
  | alt branches, t =>
      match branches.mapM text? with
      | some texts => ⟨layWords back texts t, false⟩
      | none => ⟨layAlt back 2 branches t, false⟩
  | group _ body, t =>
      if back then lay back body t else ⟨(lay back body (t.addStates 1)).join.addStates 1, false⟩
  | loop min none _ body, t => layAtLeast (lay back body) min (body.minLength.any (0 < ·)) t
  | loop min (some max) _ body, t => layBetween (lay back body) min max t

/-- Adds the states of expressions one after the other behind a part; the backward automaton takes
them from the last one on. -/
def laySeq (back : Bool) : List Expr → Part → Part
  | [], p => p
  | e :: es, p =>
      if back then lay back e (laySeq back es p).join else laySeq back es (lay back e p.join)

/-- Adds the states of alternatives. The state that branches and the one where they meet come behind
the alternatives that are `early`. -/
def layAlt (back : Bool) (early : Nat) : List Expr → Tally → Tally
  | [], t => t
  | e :: es, t =>
      let t := (lay back e t).join.addLinks 1
      layAlt back (early - 1) es (if early = 1 then t.addStates 2 else t)

end

/-! ### The whole pattern -/

mutual

/-- Whether every match starts at the start of the text. -/
def isAnchoredStart : Expr → Bool
  | look l => l == .start
  | seq items => isAnchoredStartSeq items
  | alt branches => isAnchoredStartAll branches
  | group _ body => body.isAnchoredStart
  | loop min _ _ body => min != 0 && body.isAnchoredStart
  | _ => false

/-- Whether one of the items up to the first that takes a character is anchored. -/
def isAnchoredStartSeq : List Expr → Bool
  | [] => false
  | e :: es => e.isAnchoredStart || (e.zeroWidth && isAnchoredStartSeq es)

/-- Whether all alternatives are anchored. -/
def isAnchoredStartAll : List Expr → Bool
  | [] => true
  | e :: es => e.isAnchoredStart && isAnchoredStartAll es

end

mutual

/-- Whether every match ends at the end of the text. -/
def isAnchoredStop : Expr → Bool
  | look l => l == .stop
  | seq items => isAnchoredStopSeq items
  | alt branches => isAnchoredStopAll branches
  | group _ body => body.isAnchoredStop
  | loop min _ _ body => min != 0 && body.isAnchoredStop
  | _ => false

/-- Whether one of the items from the last that takes a character on is anchored. -/
def isAnchoredStopSeq : List Expr → Bool
  | [] => false
  | e :: es => isAnchoredStopSeq es || (zeroWidthAll es && e.isAnchoredStop)

/-- Whether all alternatives are anchored. -/
def isAnchoredStopAll : List Expr → Bool
  | [] => true
  | e :: es => e.isAnchoredStop && isAnchoredStopAll es

end

/-- What stands before the pattern: a loop over any bytes, unless the match is anchored there. -/
def lead (anchored : Bool) : Tally :=
  let nothing : Tally := {}
  if anchored then nothing.addStates 1 else ((nothing.addStates 2).addEdges 1).addLinks 2

/-- The forward automaton of a pattern. The whole match is a group. -/
def forwardTally (e : Expr) : Tally :=
  ((e.lay false ((lead e.isAnchoredStart).addStates 1)).join.addStates 1).addStates 1

/-- The backward automaton of a pattern. -/
def backwardTally (e : Expr) : Tally :=
  (e.lay true (lead e.isAnchoredStop)).join.addStates 1

/-- The number of texts from which on a pattern that lists them is searched for without automata. -/
def longList : Nat := 3000

/-- Whether the pattern is a long list of texts. -/
def isLongList : Expr → Bool
  | alt branches => branches.all (fun e => e.text?.isSome) && longList ≤ branches.length
  | _ => false

/-- Whether a pattern takes no more memory than it may. -/
def fits (e : Expr) : Bool :=
  e.isLongList || (!e.backwardTally.isFull && !e.forwardTally.isFull)

end Expr

end BannerMatch.Pattern
