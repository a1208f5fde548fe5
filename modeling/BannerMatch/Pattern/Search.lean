import BannerMatch.Pattern.Program

/-!
# Searching

The search runs all attempts at once, one character at a time. A `Thread` is an attempt; the
threads at one place of the text form a list in order of preference, with at most one thread for a
label, as the attempts of lower preference at that label cannot do better.

* `follow` goes through instructions that take no character and lists the threads it ends in.
* `search` starts an attempt at every place until one accepts; then only the attempts that are
  preferred to it go on. So the match starts as far left as possible, and among the matches from
  there it is the one of the preferred run.
-/

namespace BannerMatch.Pattern

/-- A part of a text, by the numbers of characters before its ends. -/
structure Span where
  start : Nat
  stop : Nat
deriving DecidableEq, Repr

/-- The characters of the part. -/
def Span.slice (s : Span) (cs : List Char) : List Char := (cs.drop s.start).take (s.stop - s.start)

/-- An attempt to match. -/
structure Thread where
  /-- The instruction it stands at. -/
  label : Nat
  /-- Where it started. -/
  start : Nat
  /-- Where each group was entered last. -/
  entered : Array Nat
  /-- What each group has matched. -/
  groups : Array (Option Span)

/-- The threads found so far at a place, in order of preference, and for each label the number of
the place after the one where it was visited last. -/
structure Front where
  visited : Array Nat
  threads : Array Thread

/-- The front without threads, before the first place. -/
def Front.empty (code : Code) : Front := ⟨Array.replicate code.size 0, #[]⟩

/-- The front without threads at the next place. -/
def Front.next (front : Front) : Front := { front with threads := #[] }

/-- A place in the text. -/
structure Place where
  /-- The number of characters before it. -/
  index : Nat
  before : Option Char
  after : Option Char

/-- The threads that a thread at an instruction goes on as without taking a character, in order of
preference; none if it stays where it is or ends. -/
def Thread.moves (t : Thread) (place : Place) : Instr → List Thread
  | .accept => []
  | .chars _ _ => []
  | .look l next => if l.holds place.before place.after then [{ t with label := next }] else []
  | .branch first second => [{ t with label := first }, { t with label := second }]
  | .enter index next =>
      [{ t with label := next, entered := t.entered.setIfInBounds index place.index }]
  | .leave index next =>
      let span : Span := ⟨t.entered.getD index t.start, place.index⟩
      [{ t with label := next, groups := t.groups.setIfInBounds index (some span) }]

/-- Whether a thread stays at an instruction until the next character. -/
def Instr.waits : Instr → Bool
  | .accept => true
  | .chars _ _ => true
  | _ => false

/-- Follows the instructions that take no character from threads at one place, the preferred ones
first. Every label is visited once at most and adds two threads at most, so twice the number of
labels and one is fuel enough for one thread. -/
def follow (code : Code) (place : Place) : Nat → List Thread → Front → Front
  | 0, _, front => front
  | _, [], front => front
  | fuel + 1, t :: others, front =>
      if front.visited.getD t.label 0 = place.index + 1 then follow code place fuel others front
      else
        let front :=
          { front with visited := front.visited.setIfInBounds t.label (place.index + 1) }
        match code[t.label]? with
        | none => follow code place fuel others front
        | some i =>
            let front := if i.waits then { front with threads := front.threads.push t } else front
            follow code place fuel (t.moves place i ++ others) front

/-- Adds a thread at a place to the front there. -/
def Front.admit (front : Front) (code : Code) (place : Place) (t : Thread) : Front :=
  follow code place (2 * code.size + 1) [t] front

/-- Moves a thread over the character `c` to the next place. -/
def advance (code : Code) (c : Char) (next : Place) (front : Front) (t : Thread) : Front :=
  match code[t.label]? with
  | some (.chars s label) =>
      if s.contains c then front.admit code next { t with label := label } else front
  | _ => front

/-- The threads that are preferred to the first one that accepts, and that one. -/
def untilAccept (code : Code) : List Thread → List Thread × Option Thread
  | [] => ([], none)
  | t :: rest =>
      match code[t.label]? with
      | some .accept => ([], some t)
      | _ =>
          let p := untilAccept code rest
          (t :: p.1, p.2)

/-- A match: the part of the text that matched and the parts that its groups matched, group `0`
being the whole. -/
structure Found where
  span : Span
  groups : List (Option Span)
deriving DecidableEq, Repr

/-- What an accepting thread has matched when it ends at `stop`. -/
def Thread.found (t : Thread) (stop : Nat) : Found :=
  let span : Span := ⟨t.start, stop⟩
  ⟨span, some span :: (t.groups.toList.drop 1)⟩

/-- A program with the number of its groups, the whole match included. -/
structure Machine where
  code : Code
  start : Nat
  groupCount : Nat

/-- A new attempt at a place. -/
def Machine.attempt (m : Machine) (place : Place) : Thread :=
  ⟨m.start, place.index, Array.replicate m.groupCount place.index,
    Array.replicate m.groupCount none⟩

/-- The front at a place with a new attempt, last in preference, while there is no match. -/
def Machine.join (m : Machine) (place : Place) (front : Front) (best : Option Found) : Front :=
  if best.isNone then front.admit m.code place (m.attempt place) else front

/-- What is known at a place: the first thread that accepts cuts off those after it, and what it has
matched is the best match so far. -/
def Machine.settle (m : Machine) (place : Place) (front : Front) (best : Option Found) :
    List Thread × Option Found :=
  let cut := untilAccept m.code front.threads.toList
  match cut.2 with
  | some t => (cut.1, some (t.found place.index))
  | none => (cut.1, best)

/-- Continues the search from a place, given the threads there and the best match so far. -/
def Machine.searchFrom (m : Machine) (before : Option Char) (index : Nat) (front : Front)
    (best : Option Found) : List Char → Option Found
  | [] =>
      let place : Place := ⟨index, before, none⟩
      (m.settle place (m.join place front best) best).2
  | c :: rest =>
      let place : Place := ⟨index, before, some c⟩
      let front := m.join place front best
      let known := m.settle place front best
      if known.1.isEmpty && known.2.isSome then known.2
      else
        let next : Place := ⟨index + 1, some c, rest.head?⟩
        m.searchFrom (some c) (index + 1)
          (known.1.foldl (advance m.code c next) front.next) known.2 rest

/-- The preferred match of a text, if there is a match. -/
def Machine.search (m : Machine) (cs : List Char) : Option Found :=
  m.searchFrom none 0 (Front.empty m.code) none cs

end BannerMatch.Pattern
