import BannerMatch.Pattern.Reader
import BannerMatch.Pattern.Flags
import Mathlib.Tactic

/-!
# Patterns up to the form of their literals

How a literal of ASCII was written makes no difference to what a pattern means. The plain form of a
tree forgets it: `plain` keeps `byteForm` for other characters only. Trees with the same plain form
have the same depth and the same expression (`Ast.depth_plain`, `Ast.exprWith_plain`), and the steps
of the readers depend on the plain forms of what has been read only.
-/

namespace BannerMatch.Pattern

/-! ### Trees -/

/-- The literal without the form it was written in, if it is ASCII. -/
def Literal.plain (l : Literal) : Literal :=
  { l with byteForm := l.byteForm && 128 ≤ l.char.toNat }

theorem Literal.char_plain (l : Literal) : l.plain.char = l.char := rfl

mutual

/-- The plain form of the inside of a class. -/
def ClassSet.plain : ClassSet → ClassSet
  | .literal l => .literal l.plain
  | .range low high => .range low.plain high.plain
  | .ascii c negated => .ascii c negated
  | .perl c negated => .perl c negated
  | .property p negated => .property p negated
  | .bracket negated body => .bracket negated body.plain
  | .union items => .union (ClassSet.plainAll items)
  | .combine op left right => .combine op left.plain right.plain

/-- The plain forms of the items. -/
def ClassSet.plainAll : List ClassSet → List ClassSet
  | [] => []
  | item :: items => item.plain :: ClassSet.plainAll items

end

mutual

/-- The plain form of a pattern. -/
def Ast.plain : Ast → Ast
  | .empty => .empty
  | .flags change => .flags change
  | .literal l => .literal l.plain
  | .dot => .dot
  | .assertion a => .assertion a
  | .perl c negated => .perl c negated
  | .property p negated => .property p negated
  | .bracket negated body => .bracket negated body.plain
  | .loop min max greedy body => .loop min max greedy body.plain
  | .capture index body => .capture index body.plain
  | .group change body => .group change body.plain
  | .concat items => .concat (Ast.plainAll items)
  | .alternate branches => .alternate (Ast.plainAll branches)

/-- The plain forms of the items. -/
def Ast.plainAll : List Ast → List Ast
  | [] => []
  | item :: items => item.plain :: Ast.plainAll items

end

theorem ClassSet.plainAll_eq_map (items : List ClassSet) :
    ClassSet.plainAll items = items.map ClassSet.plain := by
  induction items with
  | nil => rfl
  | cons item items ih => rw [ClassSet.plainAll, ih, List.map_cons]

theorem Ast.plainAll_eq_map (items : List Ast) : Ast.plainAll items = items.map Ast.plain := by
  induction items with
  | nil => rfl
  | cons item items ih => rw [Ast.plainAll, ih, List.map_cons]

theorem ClassSet.plain_ofItems (items : List ClassSet) :
    (ClassSet.ofItems items).plain = ClassSet.ofItems (items.map ClassSet.plain) := by
  match items with
  | [] => rfl
  | [_] => rfl
  | _ :: _ :: _ => simp [ClassSet.ofItems, ClassSet.plain, ClassSet.plainAll_eq_map]

theorem Ast.plain_ofItems (items : List Ast) :
    (Ast.ofItems items).plain = Ast.ofItems (items.map Ast.plain) := by
  match items with
  | [] => rfl
  | [_] => rfl
  | _ :: _ :: _ => simp [Ast.ofItems, Ast.plain, Ast.plainAll_eq_map]

theorem Ast.plain_ofBranches (branches : List Ast) :
    (Ast.ofBranches branches).plain = Ast.ofBranches (branches.map Ast.plain) := by
  match branches with
  | [] => rfl
  | [_] => rfl
  | _ :: _ :: _ => simp [Ast.ofBranches, Ast.plain, Ast.plainAll_eq_map]

/-! ### Meaning -/

mutual

theorem ClassSet.depth_plain : ∀ s : ClassSet, s.plain.depth = s.depth
  | .literal _ | .range _ _ | .ascii _ _ | .perl _ _ | .property _ _ => rfl
  | .bracket _ body => congrArg (· + 1) body.depth_plain
  | .union [] => rfl
  | .union (item :: items) => by
      rw [ClassSet.plain, ClassSet.plainAll, ClassSet.depth, ClassSet.depth, item.depth_plain,
        ClassSet.depthAll_plainAll items]
  | .combine _ left right => by
      rw [ClassSet.plain, ClassSet.depth, ClassSet.depth, left.depth_plain, right.depth_plain]

theorem ClassSet.depthAll_plainAll :
    ∀ items : List ClassSet, ClassSet.depthAll (ClassSet.plainAll items) = ClassSet.depthAll items
  | [] => rfl
  | item :: items => by
      rw [ClassSet.plainAll, ClassSet.depthAll, ClassSet.depthAll, item.depth_plain,
        ClassSet.depthAll_plainAll items]

end

mutual

theorem Ast.depth_plain : ∀ a : Ast, a.plain.depth = a.depth
  | .empty | .flags _ | .literal _ | .dot | .assertion _ | .perl _ _ | .property _ _ => rfl
  | .bracket _ body => congrArg (· + 1) body.depth_plain
  | .loop _ _ _ body => congrArg (· + 1) body.depth_plain
  | .capture _ body => congrArg (· + 1) body.depth_plain
  | .group _ body => congrArg (· + 1) body.depth_plain
  | .concat items => congrArg (· + 1) (Ast.depthAll_plainAll items)
  | .alternate branches => congrArg (· + 1) (Ast.depthAll_plainAll branches)

theorem Ast.depthAll_plainAll :
    ∀ items : List Ast, Ast.depthAll (Ast.plainAll items) = Ast.depthAll items
  | [] => rfl
  | item :: items => by
      rw [Ast.plainAll, Ast.depthAll, Ast.depthAll, item.depth_plain, Ast.depthAll_plainAll items]

end

theorem Flags.classChar?_plain (f : Flags) (l : Literal) : f.classChar? l.plain = f.classChar? l :=
  rfl

theorem Flags.literal?_plain (f : Flags) (l : Literal) : f.literal? l.plain = f.literal? l := by
  rw [Flags.literal?, Flags.literal?, Literal.plain]
  by_cases h : l.char.toNat < 128
  · simp [h]
  · simp [h, Nat.le_of_not_lt h]

mutual

theorem ClassSet.set?_plain (f : Flags) : ∀ s : ClassSet, s.plain.set? f = s.set? f
  | .literal l => by rw [ClassSet.plain, ClassSet.set?, ClassSet.set?, f.classChar?_plain]
  | .range low high => by
      rw [ClassSet.plain, ClassSet.set?, ClassSet.set?, f.classChar?_plain, f.classChar?_plain]
  | .ascii _ _ | .perl _ _ | .property _ _ => rfl
  | .bracket _ body => by rw [ClassSet.plain, ClassSet.set?, ClassSet.set?, body.set?_plain f]
  | .union items => ClassSet.unionSet?_plainAll f items
  | .combine _ left right => by
      rw [ClassSet.plain, ClassSet.set?, ClassSet.set?, left.set?_plain f, right.set?_plain f]

theorem ClassSet.unionSet?_plainAll (f : Flags) : ∀ items : List ClassSet,
    ClassSet.unionSet? f (ClassSet.plainAll items) = ClassSet.unionSet? f items
  | [] => rfl
  | item :: items => by
      rw [ClassSet.plainAll, ClassSet.unionSet?, ClassSet.unionSet?, item.set?_plain f,
        ClassSet.unionSet?_plainAll f items]

end

mutual

theorem Ast.exprWith_plain : ∀ (f : Flags) (a : Ast), a.plain.exprWith f = a.exprWith f
  | _, .empty | _, .flags _ | _, .dot | _, .assertion _ | _, .perl _ _ | _, .property _ _ => rfl
  | f, .literal l => by rw [Ast.plain, Ast.exprWith, Ast.exprWith, f.literal?_plain]
  | f, .bracket _ body => by rw [Ast.plain, Ast.exprWith, Ast.exprWith, body.set?_plain f]
  | f, .loop _ _ _ body => by rw [Ast.plain, Ast.exprWith, Ast.exprWith, Ast.exprWith_plain f body]
  | f, .capture _ body => by rw [Ast.plain, Ast.exprWith, Ast.exprWith, Ast.exprWith_plain f body]
  | f, .group change body => by
      rw [Ast.plain, Ast.exprWith, Ast.exprWith, Ast.exprWith_plain (f.apply change) body]
  | f, .concat items => by
      rw [Ast.plain, Ast.exprWith, Ast.exprWith, Ast.exprsWith_plainAll f items]
  | f, .alternate branches => by
      rw [Ast.plain, Ast.exprWith, Ast.exprWith, Ast.exprsWith_plainAll f branches]

theorem Ast.exprsWith_plainAll : ∀ (f : Flags) (items : List Ast),
    Ast.exprsWith f (Ast.plainAll items) = Ast.exprsWith f items
  | _, [] => rfl
  | f, item :: items => by
      rw [Ast.plainAll, Ast.exprsWith, Ast.exprsWith, Ast.exprWith_plain f item]
      cases item.exprWith f with
      | none => rfl
      | some p => simp only [Ast.exprsWith_plainAll p.2 items]

end

/-! ### Readers -/

/-- The plain form of a primitive. -/
def Primitive.plain : Primitive → Primitive
  | .literal l => .literal l.plain
  | .perl c negated => .perl c negated
  | .property p negated => .property p negated
  | .assertion a => .assertion a

theorem Primitive.plain_item (p : Primitive) : p.item.plain = p.plain.item := by
  cases p <;> rfl

theorem Primitive.plain_classItem? (p : Primitive) :
    p.classItem?.map ClassSet.plain = p.plain.classItem? := by
  cases p <;> rfl

theorem Primitive.plain_literal? (p : Primitive) :
    p.literal?.map Literal.plain = p.plain.literal? := by
  cases p <;> rfl

/-- The level with the plain forms of what it has read. -/
def Level.plain (l : Level) : Level :=
  { l with
    pending := l.pending.map fun p => (p.1, p.2.plain)
    items := l.items.map ClassSet.plain }

theorem Level.negated_plain (l : Level) : l.plain.negated = l.negated := rfl

theorem Level.opening_plain (l : Level) : l.plain.opening = l.opening := rfl

theorem Level.isEmpty_items_plain (l : Level) : l.plain.items.isEmpty = l.items.isEmpty :=
  List.isEmpty_map

theorem Level.plain_push (l : Level) (item : ClassSet) :
    (l.push item).plain = l.plain.push item.plain := rfl

theorem Level.plain_body (l : Level) : l.body.plain = l.plain.body := by
  rw [Level.body, Level.body, Level.plain]
  cases l.pending <;>
    simp [ClassSet.plain, ClassSet.plain_ofItems, List.map_reverse]

theorem Level.plain_operate (l : Level) (op : SetOp) :
    (l.operate op).plain = l.plain.operate op := by
  rw [Level.operate, Level.operate, ← l.plain_body]
  rfl

/-- The frame with the plain forms of what was read before its group. -/
def Frame.plain (f : Frame) : Frame :=
  { f with items := f.items.map Ast.plain, branches := f.branches.map Ast.plain }

/-- The reader with the plain forms of what it has read. -/
def Reader.plain (r : Reader) : Reader :=
  { r with
    items := r.items.map Ast.plain
    branches := r.branches.map Ast.plain
    frames := r.frames.map Frame.plain }

theorem Reader.verbose_plain (r : Reader) : r.plain.verbose = r.verbose := rfl

theorem Reader.names_plain (r : Reader) : r.plain.names = r.names := rfl

theorem Reader.isEmpty_frames_plain (r : Reader) : r.plain.frames.isEmpty = r.frames.isEmpty :=
  List.isEmpty_map

theorem Reader.plain_push (r : Reader) (item : Ast) :
    (r.push item).plain = r.plain.push item.plain := rfl

theorem Reader.plain_body (r : Reader) : r.body.plain = r.plain.body := by
  simp [Reader.body, Reader.plain, Ast.plain_ofBranches, Ast.plain_ofItems, List.map_reverse]

theorem Reader.plain_bar (r : Reader) : r.bar.plain = r.plain.bar := by
  simp [Reader.bar, Reader.plain, Ast.plain_ofItems, List.map_reverse]

theorem Reader.plain_closeGroup (r : Reader) :
    r.closeGroup.map Reader.plain = r.plain.closeGroup := by
  rcases hframes : r.frames with _ | ⟨frame, frames⟩
  · simp [Reader.closeGroup, Reader.plain, hframes]
  · rcases frame with ⟨kind, verbose, items, branches⟩
    cases kind <;>
      simp [Reader.closeGroup, Reader.plain, Frame.plain, hframes, Ast.plain, Reader.body,
        Ast.plain_ofBranches, Ast.plain_ofItems, List.map_reverse]

theorem Reader.plain_repeatLast (r : Reader) (min : ℕ) (max : Option ℕ) (greedy : Bool) :
    (r.repeatLast min max greedy).map Reader.plain = r.plain.repeatLast min max greedy := by
  rcases hitems : r.items with _ | ⟨last, items⟩
  · simp [Reader.repeatLast, Reader.plain, hitems]
  · cases last <;> simp [Reader.repeatLast, Reader.plain, hitems, Ast.plain]

/-- A step of a reader with what it leaves, in plain form. -/
def Reader.plainStep (step : Option (Reader × List Char)) : Option (Reader × List Char) :=
  step.map fun p => (p.1.plain, p.2)

theorem Reader.plain_enterNamed (r : Reader) (cs : List Char) :
    r.plain.enterNamed cs = Reader.plainStep (r.enterNamed cs) := by
  rw [Reader.enterNamed, Reader.enterNamed, r.names_plain]
  cases splitAtMark ['>'] cs with
  | none => rfl
  | some p =>
    simp only [Option.bind_eq_bind, Option.bind_some]
    split_ifs <;> rfl

theorem Reader.plain_openGroup (r : Reader) (cs : List Char) :
    r.plain.openGroup cs = Reader.plainStep (r.openGroup cs) := by
  rw [Reader.openGroup, Reader.openGroup, r.verbose_plain]
  generalize skipVerbose r.verbose cs = ds
  simp only
  split_ifs
  · rfl
  · split
    · exact r.plain_enterNamed _
    · exact r.plain_enterNamed _
    · split
      · rfl
      · split_ifs <;> rfl
    · rfl

theorem Reader.plain_repeatSign (r : Reader) (min : ℕ) (max : Option ℕ) (cs : List Char) :
    r.plain.repeatSign min max cs = Reader.plainStep (r.repeatSign min max cs) := by
  rw [Reader.repeatSign.eq_def, Reader.repeatSign.eq_def]
  split
  all_goals
    rw [← r.plain_repeatLast, Reader.plainStep, Option.map_map, Option.map_map]
    rfl

theorem Reader.plain_repeatBraces (r : Reader) (cs : List Char) :
    r.plain.repeatBraces cs = Reader.plainStep (r.repeatBraces cs) := by
  rw [Reader.repeatBraces, Reader.repeatBraces, r.verbose_plain]
  cases splitBraced r.verbose false cs with
  | none => rfl
  | some p =>
    simp only [Option.bind_eq_bind, Option.bind_some]
    cases readBounds p.1 with
    | none => rfl
    | some bounds => exact r.plain_repeatSign _ _ _

/-- Readers with the same plain form take a step alike that depends on that form only. -/
theorem Reader.exists_of_plainStep {r r' r₁ : Reader} {rest : List Char}
    {f : Reader → Option (Reader × List Char)}
    (hf : ∀ r : Reader, f r.plain = Reader.plainStep (f r)) (hr : r'.plain = r.plain)
    (h : f r = some (r₁, rest)) : ∃ r₁', f r' = some (r₁', rest) ∧ r₁'.plain = r₁.plain := by
  have hstep : Reader.plainStep (f r') = some (r₁.plain, rest) := by
    rw [← hf r', hr, hf r, h]
    rfl
  obtain ⟨⟨r₁', rest'⟩, hr', heq⟩ := Option.map_eq_some_iff.mp hstep
  obtain ⟨hplain, rfl⟩ := Prod.mk.inj heq
  exact ⟨r₁', hr', hplain⟩

end BannerMatch.Pattern
