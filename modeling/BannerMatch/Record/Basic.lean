import BannerMatch.Rule.Basic

/-!
# Record layouts

A layout lists the fields of a record in order: the name of each, and how its value is read off the
record and put into it. Formats that write records work from their layouts, so every format knows
the same fields in the same order.
-/

namespace BannerMatch

/-- How the value of a field is reached in a record. -/
inductive Slot (α : Type) where
  | text (get : α → String) (set : String → α → α)
  | byte (get : α → UInt8) (set : UInt8 → α → α)
  | rules (get : α → List Rule) (set : List Rule → α → α)

/-- A field of a record. -/
structure RecordField (α : Type) where
  name : String
  slot : Slot α
  /-- Whether the field must be given. -/
  isRequired : Bool := false
  /-- Whether the field is left out when it is empty. -/
  omitsEmpty : Bool := false

/-- The fields of a record in order. -/
abbrev Layout (α : Type) := List (RecordField α)

namespace Layout

/-- The names of the fields. -/
def names {α : Type} (l : Layout α) : List String := l.map RecordField.name

/-- The field with a name. -/
def field? {α : Type} (l : Layout α) (name : String) : Option (RecordField α) :=
  l.find? fun f => f.name == name

end Layout

/-- Whether the field of a record is left out. -/
def RecordField.isOmitted {α : Type} (f : RecordField α) (a : α) : Bool :=
  f.omitsEmpty && match f.slot with
    | .text get _ => (get a).isEmpty
    | _ => false

end BannerMatch
