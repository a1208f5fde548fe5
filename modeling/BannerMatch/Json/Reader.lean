import BannerMatch.Json.Skip
import BannerMatch.Record.Basic

/-!
# Reading records

A record is written as an object, or as a list of the values of its fields in order. In an object
the members may stand in any order; those with other names are passed over, and a name may not
occur twice. A field that is not given keeps the value it has in the record that reading starts
with, unless it is required; a list may end early in the same way.

`readText` reads what one of the readers reads, with white space around it and nothing else.
-/

namespace BannerMatch.Json

/-- A reader of values of a type. -/
abbrev Reader (α : Type) := List Char → Except Fault (α × List Char)

/-- The fault of a value that is not of the kind that is asked for. -/
def rejection (cs : List Char) : Fault :=
  let verdict {α : Type} (r : Except Fault α) : Fault :=
    match r with
    | .ok _ => .unsuitable
    | .error f => f
  match cs with
  | [] => .truncated
  | c :: rest =>
      if c = '"' then verdict (readString rest)
      else if c = 'n' then verdict (readWord ['u', 'l', 'l'] rest)
      else if c = 't' then verdict (readWord ['r', 'u', 'e'] rest)
      else if c = 'f' then verdict (readWord ['a', 'l', 's', 'e'] rest)
      else if c = '-' ∨ c.isDigit then verdict (readNumber cs)
      else if c = '[' ∨ c = '\x7b' then .unsuitable
      else .malformed

/-- Reads a text. -/
def readTextValue : Reader String := fun cs =>
  match skipBlank cs with
  | '"' :: rest => (readString rest).map fun p => (String.ofList p.1, p.2)
  | rest => .error (rejection rest)

/-- Reads a natural number below `256`. -/
def readByteValue : Reader UInt8 := fun cs =>
  let start := skipBlank cs
  if start.head?.any fun c => c == '-' || c.isDigit then
    match readNumber start with
    | .error f => .error f
    | .ok (some n, rest) => if n < 256 then .ok (n.toUInt8, rest) else .error .unsuitable
    | .ok (none, _) => .error .unsuitable
  else .error (rejection start)

/-- Goes to the next item of a list, if there is one; `first` says that no item has been read. -/
def nextItem (first : Bool) (cs : List Char) : Except Fault (Option (List Char)) :=
  match skipBlank cs with
  | [] => .error .truncated
  | c :: rest =>
      if c = ']' then .ok none
      else if first then .ok (some (c :: rest))
      else if c = ',' then
        match skipBlank rest with
        | [] => .error .truncated
        | d :: rest => if d = ']' then .error .malformed else .ok (some (d :: rest))
      else .error .malformed

/-- Reads the end of a list. -/
def readListEnd (cs : List Char) : Except Fault (List Char) :=
  match skipBlank cs with
  | ']' :: rest => .ok rest
  | rest => .error (if rest.isEmpty then .truncated else .malformed)

/-- Reads at most `fuel` items of a list. -/
def readItems {α : Type} (item : Reader α) : Nat → Bool → Reader (List α)
  | 0, _, _ => .error .truncated
  | fuel + 1, first, cs =>
      match nextItem first cs with
      | .error f => .error f
      | .ok none => (readListEnd cs).map fun rest => ([], rest)
      | .ok (some start) => match item start with
          | .error f => .error f
          | .ok (a, rest) => (readItems item fuel false rest).map fun p => (a :: p.1, p.2)

/-- Reads a list. -/
def readList {α : Type} (item : Reader α) : Reader (List α) := fun cs =>
  match skipBlank cs with
  | '[' :: rest => readItems item (rest.length + 1) true rest
  | rest => .error (rejection rest)

/-- Reads the value of a field and puts it into a record; `rules` reads lists of rules. -/
def readSlot {α : Type} (rules : Reader (List Rule)) (slot : Slot α) (a : α) : Reader α :=
  match slot with
  | .text _ set => fun cs => (readTextValue cs).map fun p => (set p.1 a, p.2)
  | .byte _ set => fun cs => (readByteValue cs).map fun p => (set p.1 a, p.2)
  | .rules _ set => fun cs => (rules cs).map fun p => (set p.1 a, p.2)

/-- Reads the fields of a record from a list. -/
def readFields {α : Type} (rules : Reader (List Rule)) (first : Bool) (a : α) :
    Layout α → Reader α
  | [], cs => (readListEnd cs).map fun rest => (a, rest)
  | f :: others, cs =>
      match nextItem first cs with
      | .error e => .error e
      | .ok none =>
          if f.isRequired then .error .unsuitable else readFields rules first a others cs
      | .ok (some start) => match readSlot rules f.slot a start with
          | .error e => .error e
          | .ok (a, rest) => readFields rules false a others rest

/-- Goes to the name of the next member of an object, if there is one; gives what follows the
opening quotation mark. `first` says that no member has been read. -/
def nextMember (first : Bool) (cs : List Char) : Except Fault (Option (List Char)) :=
  match skipBlank cs with
  | [] => .error .truncated
  | c :: rest =>
      if c = '\x7d' then .ok none
      else if first then
        if c = '"' then .ok (some rest) else .error .malformed
      else if c = ',' then
        match skipBlank rest with
        | '"' :: rest => .ok (some rest)
        | rest => .error (unexpected rest)
      else .error .malformed

/-- Reads one member of an object after the opening quotation mark of its name; `seen` are the
names of the fields that have been given. -/
def readMember {α : Type} (rules : Reader (List Rule)) (layout : Layout α) (seen : List String)
    (a : α) (cs : List Char) : Except Fault ((List String × α) × List Char) :=
  match readString cs with
  | .error f => .error f
  | .ok (name, rest) =>
      match layout.field? (String.ofList name) with
      | none => ((readColon rest).bind skipValue).map fun rest => ((seen, a), rest)
      | some f =>
          if seen.contains f.name then .error .unsuitable
          else ((readColon rest).bind (readSlot rules f.slot a)).map fun p =>
            ((f.name :: seen, p.1), p.2)

/-- Reads at most `fuel` members of an object. -/
def readMembers {α : Type} (rules : Reader (List Rule)) (layout : Layout α) :
    Nat → List String → Bool → α → Reader α
  | 0, _, _, _, _ => .error .truncated
  | fuel + 1, seen, first, a, cs =>
      match nextMember first cs with
      | .error f => .error f
      | .ok none =>
          if layout.any fun f => f.isRequired && !seen.contains f.name then .error .unsuitable
          else .ok (a, (skipBlank cs).tail)
      | .ok (some start) => match readMember rules layout seen a start with
          | .error f => .error f
          | .ok ((seen, a), rest) => readMembers rules layout fuel seen false a rest

/-- Reads a record; fields that are not given are those of `start`. -/
def readRecord {α : Type} (rules : Reader (List Rule)) (layout : Layout α) (start : α) :
    Reader α := fun cs =>
  match skipBlank cs with
  | '[' :: rest => readFields rules true start layout rest
  | '\x7b' :: rest => readMembers rules layout (rest.length + 1) [] true start rest
  | rest => .error (rejection rest)

/-- Reads a text that holds one value. -/
def readText {α : Type} (reader : Reader α) (cs : List Char) : Except Fault α :=
  match reader cs with
  | .error f => .error f
  | .ok (a, rest) => if (skipBlank rest).isEmpty then .ok a else .error .malformed

end BannerMatch.Json
