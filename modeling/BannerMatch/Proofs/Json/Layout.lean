import BannerMatch.Json.Value

/-!
# How written values are laid out

`Value.compact` and `Value.pretty` write a list or an object in the same way, but with different
gaps: `row` puts parts in a row, each after a gap, with commas between them. The equations here
bring both forms of a value to `listText` and `objectText`.
-/

namespace BannerMatch.Json

/-- The gaps of a list or an object: before each part, before the closing bracket and after the
colon of a member. -/
structure Gaps where
  part : List Char
  close : List Char
  colon : List Char

/-- No white space at all. -/
def Gaps.none : Gaps := ⟨[], [], []⟩

/-- Each part on a line of its own at level `depth + 1`. -/
def Gaps.lines (depth : Nat) : Gaps := ⟨newLine (depth + 1), newLine depth, [' ']⟩

/-- What separates a part from the one before it, if there is one. -/
def comma (first : Bool) : List Char := if first then [] else [',']

/-- Parts in a row; `first` says that no part stands before them. -/
def row (gap : List Char) : Bool → List (List Char) → List Char
  | _, [] => []
  | first, p :: rest => comma first ++ (gap ++ (p ++ row gap false rest))

/-- A list with the given parts. -/
def listText (g : Gaps) (parts : List (List Char)) : List Char :=
  '[' :: (row g.part true parts ++ (g.close ++ [']']))

/-- An object with the given parts. -/
def objectText (g : Gaps) (parts : List (List Char)) : List Char :=
  '\x7b' :: (row g.part true parts ++ (g.close ++ ['\x7d']))

/-- A member from its name and what is written for its value. -/
def memberText (g : Gaps) (name : String) (value : List Char) : List Char :=
  quote name.toList ++ ':' :: (g.colon ++ value)

/-- A row is at least as long as it has commas. -/
theorem length_le_row (gap : List Char) (first : Bool) (parts : List (List Char)) :
    parts.length ≤ (row gap first parts).length + 1 := by
  have hcommas : ∀ ps : List (List Char), ps.length ≤ (row gap false ps).length := by
    intro ps
    induction ps with
    | nil => simp
    | cons p ps ih =>
      simp only [row, comma, List.length_append, List.length_cons, Bool.false_eq_true, if_false]
      omega
  cases parts with
  | nil => simp
  | cons p rest =>
    have h := hcommas rest
    simp only [row, List.length_append, List.length_cons]
    omega

/-! ### Values on one line -/

theorem compactItems_eq (items : List Value) :
    compactItems items = row [] true (items.map Value.compact) := by
  induction items with
  | nil => rfl
  | cons v rest ih =>
    rw [compactItems, ih]
    cases rest <;> simp [row, comma]

theorem compact_list (items : List Value) :
    (Value.list items).compact = listText .none (items.map Value.compact) := by
  rw [Value.compact, compactItems_eq]
  rfl

theorem compactMembers_eq (members : List (String × Value)) :
    compactMembers members =
      row [] true (members.map fun m => memberText .none m.1 m.2.compact) := by
  induction members with
  | nil => rfl
  | cons m rest ih =>
    rw [compactMembers, ih]
    cases rest <;> simp [row, comma, memberText, Gaps.none]

theorem compact_object (members : List (String × Value)) :
    (Value.object members).compact =
      objectText .none (members.map fun m => memberText .none m.1 m.2.compact) := by
  rw [Value.compact, compactMembers_eq]
  rfl

/-! ### Values on several lines -/

theorem prettyItems_eq (depth : Nat) (items : List Value) :
    prettyItems depth items = row (newLine depth) true (items.map (Value.pretty depth)) := by
  induction items with
  | nil => rfl
  | cons v rest ih =>
    rw [prettyItems, ih]
    cases rest <;> simp [row, comma]

theorem pretty_list (depth : Nat) {items : List Value} (hne : items ≠ []) :
    (Value.list items).pretty depth =
      listText (.lines depth) (items.map (Value.pretty (depth + 1))) := by
  rw [Value.pretty, if_neg (by simpa using hne), prettyItems_eq, List.append_assoc]
  rfl

theorem prettyMembers_eq (depth : Nat) (members : List (String × Value)) :
    prettyMembers (depth + 1) members =
      row (newLine (depth + 1)) true
        (members.map fun m => memberText (.lines depth) m.1 (m.2.pretty (depth + 1))) := by
  induction members with
  | nil => rfl
  | cons m rest ih =>
    rw [prettyMembers, ih]
    cases rest <;> simp [row, comma, memberText, Gaps.lines]

theorem pretty_object (depth : Nat) {members : List (String × Value)} (hne : members ≠ []) :
    (Value.object members).pretty depth =
      objectText (.lines depth)
        (members.map fun m => memberText (.lines depth) m.1 (m.2.pretty (depth + 1))) := by
  rw [Value.pretty, if_neg (by simpa using hne), prettyMembers_eq, List.append_assoc]
  rfl

/-! ### Both forms -/

/-- A value at level `depth`, on several lines or on one. -/
def Value.written (pretty : Bool) (depth : Nat) (v : Value) : List Char :=
  if pretty then v.pretty depth else v.compact

/-- The gaps of a list or an object at level `depth`. -/
def gapsAt (pretty : Bool) (depth : Nat) : Gaps := if pretty then .lines depth else .none

variable (pretty : Bool) (depth : Nat)

@[simp] theorem written_text (s : String) :
    (Value.text s).written pretty depth = quote s.toList := by
  cases pretty <;> rfl

@[simp] theorem written_number (digits : String) :
    (Value.number digits).written pretty depth = digits.toList := by
  cases pretty <;> rfl

/-- A list without items is written without gaps. -/
theorem written_list_nil : (Value.list []).written pretty depth = listText .none [] := by
  cases pretty <;> rfl

theorem written_list {items : List Value} (hne : items ≠ []) :
    (Value.list items).written pretty depth =
      listText (gapsAt pretty depth) (items.map fun v => v.written pretty (depth + 1)) := by
  cases pretty
  · exact compact_list items
  · exact pretty_list depth hne

theorem written_object {members : List (String × Value)} (hne : members ≠ []) :
    (Value.object members).written pretty depth =
      objectText (gapsAt pretty depth)
        (members.map fun m =>
          memberText (gapsAt pretty depth) m.1 (m.2.written pretty (depth + 1))) := by
  cases pretty
  · exact compact_object members
  · exact pretty_object depth hne

end BannerMatch.Json
