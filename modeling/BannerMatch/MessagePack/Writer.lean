import BannerMatch.Record.Layouts
import BannerMatch.Text.Utf8

/-!
# Writing MessagePack

Records are written as maps from field names to values, each length and each number in its shortest
form.
-/

namespace BannerMatch.MessagePack

/-- A number in `count` bytes, the most significant one first. -/
def bigEndian : Nat → Nat → List UInt8
  | 0, _ => []
  | count + 1, n => bigEndian count (n / 256) ++ [n.toUInt8]

/-- The bytes before a text of a given length. -/
def textHead (length : Nat) : List UInt8 :=
  if length < 0x20 then [(0xA0 + length).toUInt8]
  else if length < 0x100 then 0xD9 :: bigEndian 1 length
  else if length < 0x10000 then 0xDA :: bigEndian 2 length
  else 0xDB :: bigEndian 4 length

/-- The bytes before a list of a given length. -/
def listHead (length : Nat) : List UInt8 :=
  if length < 0x10 then [(0x90 + length).toUInt8]
  else if length < 0x10000 then 0xDC :: bigEndian 2 length
  else 0xDD :: bigEndian 4 length

/-- The bytes before a map of a given length. -/
def mapHead (length : Nat) : List UInt8 :=
  if length < 0x10 then [(0x80 + length).toUInt8]
  else if length < 0x10000 then 0xDE :: bigEndian 2 length
  else 0xDF :: bigEndian 4 length

/-- A text. -/
def writeText (s : String) : List UInt8 :=
  let bytes := Text.encode s.toList
  textHead bytes.length ++ bytes

/-- A number below `256`. -/
def writeByte (n : UInt8) : List UInt8 := if n < 0x80 then [n] else [0xCC, n]

/-- A list, from what is written for its items. -/
def writeList (items : List (List UInt8)) : List UInt8 := listHead items.length ++ items.flatten

/-- The value of a field; `rule` writes the rules in it. -/
def writeSlot {α : Type} (rule : Rule → List UInt8) (slot : Slot α) (a : α) : List UInt8 :=
  match slot with
  | .text get _ => writeText (get a)
  | .byte get _ => writeByte (get a)
  | .rules get _ => writeList ((get a).map rule)

/-- A record; `rule` writes the rules in it. -/
def writeRecord {α : Type} (rule : Rule → List UInt8) (layout : Layout α) (a : α) : List UInt8 :=
  mapHead layout.length ++
    layout.flatMap fun f => writeText f.name ++ writeSlot rule f.slot a

/-- A rule. -/
def writeRule (r : Rule) : List UInt8 := writeRecord (fun _ => []) Rule.layout r

end BannerMatch.MessagePack

namespace BannerMatch

/-- A rule set in MessagePack. -/
def RuleSet.messagePack (s : RuleSet) : List UInt8 :=
  MessagePack.writeRecord MessagePack.writeRule RuleSet.layout s

end BannerMatch
