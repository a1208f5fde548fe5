import BannerMatch.Record.Layouts
import BannerMatch.Text.Utf8

/-!
# Reading MessagePack

A value starts with a head that says of what kind it is and how long. A record is a map from field
names, or from the numbers of fields, to values, or a list of the values of its fields in order.

* Members with other names are passed over, however deep up to a limit on nested values.
* A field may not be given twice, and a list may not be longer than the record.
* A text may also be given as bytes that are its encoding, and bytes of length zero may stand for a
  list without items.

Bytes after the value are not looked at.
-/

namespace BannerMatch.MessagePack

/-- The first part of a value. -/
inductive Head
  /-- A value that ends with its head. -/
  | atom
  | natural (n : Nat)
  | integer (i : Int)
  | text (length : Nat)
  | bytes (length : Nat)
  | list (length : Nat)
  | map (length : Nat)
  /-- A typed value of the given length, its type included. -/
  | extension (length : Nat)
deriving DecidableEq, Repr

/-- Splits off a given number of bytes. -/
def takeBytes (count : Nat) (bs : List UInt8) : Option (List UInt8 × List UInt8) :=
  let front := bs.take count
  if front.length = count then some (front, bs.drop count) else none

/-- The number that bytes spell, the most significant one first. -/
def ofBytes (bs : List UInt8) : Nat := bs.foldl (fun n b => 256 * n + b.toNat) 0

/-- Reads a number of `count` bytes. -/
def readNumber (count : Nat) (bs : List UInt8) : Option (Nat × List UInt8) :=
  (takeBytes count bs).map fun p => (ofBytes p.1, p.2)

/-- The integer that `count` bytes spell in two's complement. -/
def toInteger (count n : Nat) : Int :=
  if 2 * n < Nat.pow 256 count then n else n - Nat.pow 256 count

/-- Reads a head that has the number of `count` bytes in it. -/
def readCounted (head : Nat → Head) (count : Nat) (bs : List UInt8) :
    Option (Head × List UInt8) :=
  (readNumber count bs).map fun p => (head p.1, p.2)

/-- Reads the head of a value. -/
def readHead : List UInt8 → Option (Head × List UInt8)
  | [] => none
  | b :: rest =>
      let n := b.toNat
      if n < 0x80 then some (.natural n, rest)
      else if n < 0x90 then some (.map (n - 0x80), rest)
      else if n < 0xA0 then some (.list (n - 0x90), rest)
      else if n < 0xC0 then some (.text (n - 0xA0), rest)
      else if n = 0xC0 then some (.atom, rest)
      else if n = 0xC1 then none
      else if n < 0xC4 then some (.atom, rest)
      else if n < 0xC7 then readCounted .bytes (Nat.pow 2 (n - 0xC4)) rest
      else if n < 0xCA then readCounted (fun n => .extension (n + 1)) (Nat.pow 2 (n - 0xC7)) rest
      else if n < 0xCC then readCounted (fun _ => .atom) (Nat.pow 2 (n - 0xC8)) rest
      else if n < 0xD0 then readCounted .natural (Nat.pow 2 (n - 0xCC)) rest
      else if n < 0xD4 then
        let count := Nat.pow 2 (n - 0xD0)
        readCounted (fun m => .integer (toInteger count m)) count rest
      else if n < 0xD9 then some (.extension (Nat.pow 2 (n - 0xD4) + 1), rest)
      else if n < 0xDC then readCounted .text (Nat.pow 2 (n - 0xD9)) rest
      else if n < 0xDE then readCounted .list (Nat.pow 2 (n - 0xDB)) rest
      else if n < 0xE0 then readCounted .map (Nat.pow 2 (n - 0xDD)) rest
      else some (.integer (toInteger 1 n), rest)

/-- Does a step a given number of times. -/
def repeatStep (step : List UInt8 → Option (List UInt8)) :
    Nat → List UInt8 → Option (List UInt8)
  | 0, bs => some bs
  | n + 1, bs => (step bs).bind (repeatStep step n)

/-- Passes over a value in which at most `levels` values are nested. -/
def skipValue (levels : Nat) (bs : List UInt8) : Option (List UInt8) :=
  match readHead bs with
  | none => none
  | some (head, rest) =>
      match head, levels with
      | .text n, _ => (takeBytes n rest).map Prod.snd
      | .bytes n, _ => (takeBytes n rest).map Prod.snd
      | .list n, levels + 1 => repeatStep (skipValue levels) n rest
      | .map n, levels + 1 => repeatStep (skipValue levels) (2 * n) rest
      | .extension n, _ + 1 => (takeBytes n rest).map Prod.snd
      | .list _, 0 => none
      | .map _, 0 => none
      | .extension _, 0 => none
      | _, _ => some rest

/-- A reader of values of a type. -/
abbrev Reader (α : Type) := List UInt8 → Option (α × List UInt8)

/-- Reads a text. -/
def readTextValue : Reader String := fun bs =>
  let text (n : Nat) (rest : List UInt8) : Option (String × List UInt8) := do
    let parts ← takeBytes n rest
    let cs ← Text.decode? parts.1
    return (String.ofList cs, parts.2)
  match readHead bs with
  | some (.text n, rest) => text n rest
  | some (.bytes n, rest) => text n rest
  | _ => none

/-- Reads a number below `256`. -/
def readByteValue : Reader UInt8 := fun bs =>
  match readHead bs with
  | some (.natural n, rest) => if n < 256 then some (n.toUInt8, rest) else none
  | some (.integer i, rest) =>
      if 0 ≤ i ∧ i < 256 then some (i.toNat.toUInt8, rest) else none
  | _ => none

/-- Reads a given number of items. -/
def readItems {α : Type} (item : Reader α) : Nat → Reader (List α)
  | 0, bs => some ([], bs)
  | n + 1, bs => do
      let (a, rest) ← item bs
      let (others, rest) ← readItems item n rest
      return (a :: others, rest)

/-- Reads a list. Bytes of length zero are a list without items. -/
def readList {α : Type} (item : Reader α) : Reader (List α) := fun bs =>
  match readHead bs with
  | some (.list n, rest) => readItems item n rest
  | some (.bytes 0, rest) => some ([], rest)
  | _ => none

/-- Reads the value of a field and puts it into a record; `rules` reads lists of rules. -/
def readSlot {α : Type} (rules : Reader (List Rule)) (slot : Slot α) (a : α) : Reader α :=
  match slot with
  | .text _ set => fun bs => (readTextValue bs).map fun p => (set p.1 a, p.2)
  | .byte _ set => fun bs => (readByteValue bs).map fun p => (set p.1 a, p.2)
  | .rules _ set => fun bs => (rules bs).map fun p => (set p.1 a, p.2)

/-- The field that a name in bytes belongs to. -/
def fieldNamed? {α : Type} (layout : Layout α) (name : List UInt8) : Option (RecordField α) :=
  layout.find? fun f => Text.encode f.name.toList == name

/-- Reads the key of a member; gives the field that it belongs to, if there is one. -/
def readKey {α : Type} (layout : Layout α) : Reader (Option (RecordField α)) := fun bs =>
  match readHead bs with
  | some (.natural n, rest) => some (layout[n]?, rest)
  | some (.text n, rest) => (takeBytes n rest).map fun p => (fieldNamed? layout p.1, p.2)
  | some (.bytes n, rest) => (takeBytes n rest).map fun p => (fieldNamed? layout p.1, p.2)
  | _ => none

/-- Reads a given number of members of a map; `seen` are the names of the fields given so far. -/
def readMembers {α : Type} (levels : Nat) (rules : Reader (List Rule)) (layout : Layout α) :
    Nat → List String → α → Reader α
  | 0, _, a, bs => some (a, bs)
  | n + 1, seen, a, bs =>
      match readKey layout bs with
      | none => none
      | some (none, rest) =>
          (skipValue levels rest).bind (readMembers levels rules layout n seen a)
      | some (some f, rest) =>
          if seen.contains f.name then none
          else match readSlot rules f.slot a rest with
            | none => none
            | some (a, rest) => readMembers levels rules layout n (f.name :: seen) a rest

/-- Reads the fields of a record from a list of which `count` items are left. -/
def readFields {α : Type} (rules : Reader (List Rule)) (a : α) : Layout α → Nat → Reader α
  | _, 0, bs => some (a, bs)
  | [], _ + 1, _ => none
  | f :: others, n + 1, bs =>
      match readSlot rules f.slot a bs with
      | none => none
      | some (a, rest) => readFields rules a others n rest

/-- Reads a record in whose members at most `levels` values are nested; fields that are not given
are those of `start`. Bytes of length zero give no field. -/
def readRecord {α : Type} (levels : Nat) (rules : Reader (List Rule)) (layout : Layout α)
    (start : α) : Reader α := fun bs =>
  match readHead bs with
  | some (.map n, rest) => readMembers levels rules layout n [] start rest
  | some (.list n, rest) => readFields rules start layout n rest
  | some (.bytes 0, rest) => some (start, rest)
  | _ => none

/-- The greatest number of nested values. -/
def nestingLimit : Nat := 1023

/-- Reads a rule that stands in the list of a rule set. -/
def readRule : Reader Rule := readRecord (nestingLimit - 3) (fun _ => none) Rule.layout {}

/-- Reads a rule set. -/
def readRuleSet : Reader RuleSet :=
  readRecord (nestingLimit - 1) (readList readRule) RuleSet.layout {}

end BannerMatch.MessagePack

namespace BannerMatch

/-- The rule set at the start of bytes in MessagePack. -/
def RuleSet.ofMessagePack? (bytes : List UInt8) : Option RuleSet :=
  (MessagePack.readRuleSet bytes).map Prod.fst

end BannerMatch
