import BannerMatch.Pattern.Flags
import BannerMatch.Pattern.Reader
import BannerMatch.Proofs.Unicode.Names

/-!
# What a pattern mentions

The names of properties and the changes of flags in a tree are its `mentions`. A reader never drops
what it has read: what is mentioned in a part is mentioned in the pattern that comes out
(`mem_mentions_readLevels`, `mem_mentions_readAst`). And what a pattern with an expression names has
no backslash in its name (`Ast.backslash_not_mem_of_expr?`).
-/

namespace BannerMatch.Pattern

/-- Something that a pattern mentions. -/
inductive Mention
  | property (p : PropertyName)
  | change (c : FlagChange)
deriving DecidableEq

mutual

/-- What is mentioned inside a class. -/
def ClassSet.mentions : ClassSet → List Mention
  | .property p _ => [.property p]
  | .bracket _ body => body.mentions
  | .union items => ClassSet.allMentions items
  | .combine _ left right => left.mentions ++ right.mentions
  | _ => []

/-- What is mentioned in the items. -/
def ClassSet.allMentions : List ClassSet → List Mention
  | [] => []
  | item :: items => item.mentions ++ ClassSet.allMentions items

end

mutual

/-- What is mentioned in a pattern. -/
def Ast.mentions : Ast → List Mention
  | .flags change => [.change change]
  | .property p _ => [.property p]
  | .bracket _ body => body.mentions
  | .loop _ _ _ body => body.mentions
  | .capture _ body => body.mentions
  | .group change body => .change change :: body.mentions
  | .concat items => Ast.allMentions items
  | .alternate branches => Ast.allMentions branches
  | _ => []

/-- What is mentioned in the items. -/
def Ast.allMentions : List Ast → List Mention
  | [] => []
  | item :: items => item.mentions ++ Ast.allMentions items

end

variable {m : Mention}

theorem ClassSet.mem_allMentions {items : List ClassSet} :
    m ∈ ClassSet.allMentions items ↔ ∃ item ∈ items, m ∈ item.mentions := by
  induction items with
  | nil => simp [ClassSet.allMentions]
  | cons item items ih => simp [ClassSet.allMentions, ih]

theorem Ast.mem_allMentions {items : List Ast} :
    m ∈ Ast.allMentions items ↔ ∃ item ∈ items, m ∈ item.mentions := by
  induction items with
  | nil => simp [Ast.allMentions]
  | cons item items ih => simp [Ast.allMentions, ih]

theorem ClassSet.mem_mentions_ofItems {items : List ClassSet} :
    m ∈ (ClassSet.ofItems items).mentions ↔ ∃ item ∈ items, m ∈ item.mentions := by
  match items with
  | [] => simp [ClassSet.ofItems, ClassSet.mentions, ClassSet.allMentions]
  | [_] => simp [ClassSet.ofItems]
  | _ :: _ :: _ => exact ClassSet.mem_allMentions

theorem Ast.mem_mentions_ofItems {items : List Ast} :
    m ∈ (Ast.ofItems items).mentions ↔ ∃ item ∈ items, m ∈ item.mentions := by
  match items with
  | [] => simp [Ast.ofItems, Ast.mentions]
  | [_] => simp [Ast.ofItems]
  | _ :: _ :: _ => exact Ast.mem_allMentions

theorem Ast.mem_mentions_ofBranches {branches : List Ast} :
    m ∈ (Ast.ofBranches branches).mentions ↔ ∃ branch ∈ branches, m ∈ branch.mentions := by
  match branches with
  | [] => simp [Ast.ofBranches, Ast.mentions, Ast.allMentions]
  | [_] => simp [Ast.ofBranches]
  | _ :: _ :: _ => exact Ast.mem_allMentions

/-! ### Known names -/

theorem Flags.isSome_of_property? {f : Flags} {p : PropertyName} {negated : Bool} {t : CodeSet}
    (h : f.property? p negated = some t) : p.set?.isSome := by
  rw [Flags.property?] at h
  split_ifs at h
  obtain ⟨s, hs, -⟩ := Option.bind_eq_some_iff.mp h
  rw [hs]
  rfl

mutual

/-- A class that stands for a set names only properties that there are. -/
theorem ClassSet.isSome_of_set? {f : Flags} {p : PropertyName} : ∀ {s : ClassSet} {t : CodeSet},
    s.set? f = some t → .property p ∈ s.mentions → p.set?.isSome
  | .property q negated, t, h, hp => by
      rw [ClassSet.mentions, List.mem_singleton] at hp
      cases hp
      exact Flags.isSome_of_property? h
  | .bracket _ body, t, h, hp => by
      rw [ClassSet.set?] at h
      cases hbody : body.set? f with
      | none => rw [hbody] at h; cases h
      | some s => exact body.isSome_of_set? hbody hp
  | .union items, t, h, hp => ClassSet.isSome_of_unionSet? h hp
  | .combine _ left right, t, h, hp => by
      rw [ClassSet.set?] at h
      cases hleft : left.set? f with
      | none => rw [hleft] at h; cases h
      | some l =>
        cases hright : right.set? f with
        | none => rw [hleft, hright] at h; cases h
        | some r =>
          rcases List.mem_append.mp hp with hp | hp
          · exact left.isSome_of_set? hleft hp
          · exact right.isSome_of_set? hright hp
  | .literal _, _, _, hp | .range _ _, _, _, hp | .ascii _ _, _, _, hp | .perl _ _, _, _, hp => by
      cases hp

theorem ClassSet.isSome_of_unionSet? {f : Flags} {p : PropertyName} :
    ∀ {items : List ClassSet} {t : CodeSet},
      ClassSet.unionSet? f items = some t → .property p ∈ ClassSet.allMentions items →
        p.set?.isSome
  | [], _, _, hp => by cases hp
  | item :: items, t, h, hp => by
      rw [ClassSet.unionSet?] at h
      cases hitem : item.set? f with
      | none => rw [hitem] at h; cases h
      | some s =>
        cases hitems : ClassSet.unionSet? f items with
        | none => rw [hitem, hitems] at h; cases h
        | some u =>
          rcases List.mem_append.mp hp with hp | hp
          · exact item.isSome_of_set? hitem hp
          · exact ClassSet.isSome_of_unionSet? hitems hp

end

mutual

/-- A pattern with an expression names only properties that there are. -/
theorem Ast.isSome_of_exprWith {p : PropertyName} : ∀ {f : Flags} {a : Ast} {e : Expr × Flags},
    a.exprWith f = some e → .property p ∈ a.mentions → p.set?.isSome
  | f, .property q negated, e, h, hp => by
      rw [Ast.mentions, List.mem_singleton] at hp
      cases hp
      obtain ⟨s, hs, -⟩ := Option.map_eq_some_iff.mp h
      exact Flags.isSome_of_property? hs
  | f, .bracket _ body, e, h, hp => by
      rw [Ast.exprWith] at h
      cases hbody : body.set? f with
      | none => rw [hbody] at h; cases h
      | some s => exact ClassSet.isSome_of_set? hbody hp
  | f, .loop _ _ _ body, e, h, hp => by
      rw [Ast.exprWith] at h
      cases hbody : body.exprWith f with
      | none => rw [hbody] at h; cases h
      | some e' => exact Ast.isSome_of_exprWith hbody hp
  | f, .capture _ body, e, h, hp => by
      rw [Ast.exprWith] at h
      cases hbody : body.exprWith f with
      | none => rw [hbody] at h; cases h
      | some e' => exact Ast.isSome_of_exprWith hbody hp
  | f, .group change body, e, h, hp => by
      rw [Ast.exprWith] at h
      rcases List.mem_cons.mp hp with hp | hp
      · cases hp
      · cases hbody : body.exprWith (f.apply change) with
        | none => rw [hbody] at h; cases h
        | some e' => exact Ast.isSome_of_exprWith hbody hp
  | f, .concat items, e, h, hp => by
      obtain ⟨q, hq, -⟩ := Option.map_eq_some_iff.mp h
      exact Ast.isSome_of_exprsWith hq hp
  | f, .alternate branches, e, h, hp => by
      obtain ⟨q, hq, -⟩ := Option.map_eq_some_iff.mp h
      exact Ast.isSome_of_exprsWith hq hp
  | _, .flags _, _, _, hp => by
      rw [Ast.mentions, List.mem_singleton] at hp
      cases hp
  | _, .empty, _, _, hp | _, .literal _, _, _, hp | _, .dot, _, _, hp | _, .assertion _, _, _, hp
  | _, .perl _ _, _, _, hp => by
      cases hp

theorem Ast.isSome_of_exprsWith {p : PropertyName} :
    ∀ {f : Flags} {items : List Ast} {e : List Expr × Flags},
      Ast.exprsWith f items = some e → .property p ∈ Ast.allMentions items → p.set?.isSome
  | _, [], _, _, hp => by cases hp
  | f, item :: items, e, h, hp => by
      rw [Ast.exprsWith] at h
      cases hitem : item.exprWith f with
      | none => rw [hitem] at h; cases h
      | some e' =>
        rw [hitem] at h
        obtain ⟨q, hq, -⟩ := Option.map_eq_some_iff.mp h
        rcases List.mem_append.mp hp with hp | hp
        · exact Ast.isSome_of_exprWith hitem hp
        · exact Ast.isSome_of_exprsWith hq hp

end

/-- The characters of a property name. -/
def PropertyName.chars : PropertyName → List Char
  | .lone name => name
  | .valued _ name value => name ++ value

/-- **The properties that a pattern with an expression names have no backslash in their names.** -/
theorem Ast.backslash_not_mem_of_expr? {a : Ast} {e : Expr} (h : a.expr? = some e)
    {p : PropertyName} (hp : .property p ∈ a.mentions) : '\\' ∉ p.chars := by
  obtain ⟨q, hq, -⟩ := Option.map_eq_some_iff.mp h
  have hset := Ast.isSome_of_exprWith hq hp
  intro hmem
  have hnone : p.set? = none := by
    cases p with
    | lone name => exact Unicode.property?_eq_none hmem
    | valued differs name value => exact Unicode.propertyValue?_eq_none (List.mem_append.mp hmem)
  rw [hnone] at hset
  cases hset

/-! ### Readers keep what they have read -/

/-- Something is mentioned in what a level has read. -/
def Level.Mentions (l : Level) (m : Mention) : Prop :=
  (∃ p ∈ l.pending, m ∈ p.2.mentions) ∨ ∃ item ∈ l.items, m ∈ item.mentions

theorem Level.mem_mentions_body {l : Level} : m ∈ l.body.mentions ↔ l.Mentions m := by
  rw [Level.body, Level.Mentions]
  cases l.pending <;> simp [ClassSet.mentions, ClassSet.mem_mentions_ofItems]

theorem Level.mentions_push {l : Level} {item : ClassSet} :
    (l.push item).Mentions m ↔ m ∈ item.mentions ∨ l.Mentions m := by
  simp [Level.push, Level.Mentions, or_left_comm]

theorem Level.mentions_operate {l : Level} {op : SetOp} :
    (l.operate op).Mentions m ↔ l.Mentions m := by
  show (∃ p ∈ some (op, l.body), m ∈ p.2.mentions) ∨
    (∃ item ∈ ([] : List ClassSet), m ∈ item.mentions) ↔ _
  simp [Level.mem_mentions_body]

/-- Something is mentioned in what one of the levels has read. -/
def MentionedIn (levels : List Level) (m : Mention) : Prop := ∃ l ∈ levels, l.Mentions m

theorem mentionedIn_cons {l : Level} {outer : List Level} :
    MentionedIn (l :: outer) m ↔ l.Mentions m ∨ MentionedIn outer m := by
  simp [MentionedIn]

/-- Something is mentioned in what has been read after a step. -/
def BracketStep.Mentions (step : BracketStep) (m : Mention) : Prop :=
  match step with
  | .done _ body _ => m ∈ body.mentions
  | .next level outer _ => MentionedIn (level :: outer) m

/-- A step in a class keeps what has been read. -/
theorem mentions_bracketStep {verbose : Bool} {level : Level} {outer : List Level} {c : Char}
    {rest : List Char} {step : BracketStep} (h : bracketStep verbose level outer c rest = some step)
    (hm : MentionedIn (level :: outer) m) : step.Mentions m := by
  rw [mentionedIn_cons] at hm
  unfold bracketStep at h
  split_ifs at h with hhyphen hclose hopen hend hinter hdiff hsymm
  · cases h
    exact mentionedIn_cons.mpr (hm.imp_left fun hm => hm.imp_right fun ⟨item, hitem, hmem⟩ =>
      ⟨item, List.mem_cons_of_mem _ hitem, hmem⟩)
  · cases h
    exact mentionedIn_cons.mpr (hm.imp_left fun hm => Level.mentions_push.mpr (.inr hm))
  · cases hnamed : readNamedClass rest with
    | some p =>
      rw [hnamed] at h
      cases h
      exact mentionedIn_cons.mpr (hm.imp_left fun hm => Level.mentions_push.mpr (.inr hm))
    | none =>
      rw [hnamed] at h
      cases h
      exact mentionedIn_cons.mpr (.inr (mentionedIn_cons.mpr hm))
  · cases outer with
    | nil =>
      cases h
      rcases hm with hm | ⟨_, hl, -⟩
      · exact Level.mem_mentions_body.mpr hm
      · cases hl
    | cons parent outer =>
      cases h
      rw [mentionedIn_cons] at hm
      refine mentionedIn_cons.mpr ?_
      rcases hm with hm | hm | hm
      · exact .inl (Level.mentions_push.mpr (.inl (Level.mem_mentions_body.mpr hm)))
      · exact .inl (Level.mentions_push.mpr (.inr hm))
      · exact .inr hm
  · cases h
    exact mentionedIn_cons.mpr (hm.imp_left Level.mentions_operate.mpr)
  · cases h
    exact mentionedIn_cons.mpr (hm.imp_left Level.mentions_operate.mpr)
  · cases h
    exact mentionedIn_cons.mpr (hm.imp_left Level.mentions_operate.mpr)
  · obtain ⟨p, -, rfl⟩ := Option.map_eq_some_iff.mp h
    exact mentionedIn_cons.mpr (hm.imp_left fun hm => Level.mentions_push.mpr (.inr hm))

/-- **A class mentions everything that its reader had read.** -/
theorem mem_mentions_readLevels {verbose : Bool} {fuel : ℕ} {level : Level} {outer : List Level}
    {cs rest : List Char} {ast : Ast}
    (h : readLevels verbose fuel level outer cs = some (ast, rest))
    (hm : MentionedIn (level :: outer) m) : m ∈ ast.mentions := by
  induction fuel generalizing level outer cs with
  | zero => cases h
  | succ fuel ih =>
    rw [readLevels] at h
    cases hcs : skipVerbose verbose cs with
    | nil => rw [hcs] at h; cases h
    | cons c tail =>
      simp only [hcs] at h
      cases hstep : bracketStep verbose level outer c tail with
      | none => rw [hstep] at h; cases h
      | some step =>
        rw [hstep] at h
        have hkept := mentions_bracketStep hstep hm
        cases step with
        | done negated body after => cases h; exact hkept
        | next level' outer' after => exact ih h hkept

/-- Something is mentioned in the change of flags that a group starts with. -/
def GroupKind.Mentions (kind : GroupKind) (m : Mention) : Prop :=
  match kind with
  | .capture _ => False
  | .plain change => m = .change change

/-- Something is mentioned in one of the trees. -/
def MentionedInItems (items : List Ast) (m : Mention) : Prop := ∃ item ∈ items, m ∈ item.mentions

/-- Something is mentioned before an open group or at its start. -/
def Frame.Mentions (f : Frame) (m : Mention) : Prop :=
  f.kind.Mentions m ∨ MentionedInItems f.items m ∨ MentionedInItems f.branches m

/-- Something is mentioned in what a reader has read. -/
def Reader.Mentions (r : Reader) (m : Mention) : Prop :=
  MentionedInItems r.items m ∨ MentionedInItems r.branches m ∨ ∃ f ∈ r.frames, f.Mentions m

theorem Reader.mem_mentions_body {r : Reader} :
    m ∈ r.body.mentions ↔ MentionedInItems r.items m ∨ MentionedInItems r.branches m := by
  simp [Reader.body, MentionedInItems, Ast.mem_mentions_ofBranches, Ast.mem_mentions_ofItems,
    or_comm]

theorem Reader.mentions_push {r : Reader} {item : Ast} :
    (r.push item).Mentions m ↔ m ∈ item.mentions ∨ r.Mentions m := by
  simp [Reader.push, Reader.Mentions, MentionedInItems, or_assoc]

theorem Reader.mentions_enter {r : Reader} {kind : GroupKind} {verbose : Bool} :
    (r.enter kind verbose).Mentions m ↔ kind.Mentions m ∨ r.Mentions m := by
  simp [Reader.enter, Reader.Mentions, Frame.Mentions, MentionedInItems, or_assoc]

/-- A group that ends has the flags at its start and its body in it. -/
theorem Reader.closeGroup_eq_some {r r' : Reader} (h : r.closeGroup = some r') :
    ∃ f frames group, r.frames = f :: frames ∧
      (∀ m, m ∈ Ast.mentions group ↔ f.kind.Mentions m ∨ m ∈ r.body.mentions) ∧
      r' = { r with
        verbose := f.verbose
        items := group :: f.items
        branches := f.branches
        frames := frames } := by
  rw [Reader.closeGroup] at h
  cases hframes : r.frames with
  | nil => rw [hframes] at h; cases h
  | cons f frames =>
    rw [hframes] at h
    refine ⟨f, frames, _, rfl, fun m => ?_, (Option.some.inj h).symm⟩
    cases f.kind <;> simp [GroupKind.Mentions, Ast.mentions]

theorem Reader.mentions_closeGroup {r r' : Reader} (h : r.closeGroup = some r')
    (hm : r.Mentions m) : r'.Mentions m := by
  obtain ⟨f, frames, group, hframes, hgroup, rfl⟩ := Reader.closeGroup_eq_some h
  rw [Reader.Mentions, hframes, ← or_assoc, ← Reader.mem_mentions_body] at hm
  rcases hm with hm | ⟨f', hf', hm⟩
  · exact .inl ⟨group, List.mem_cons_self, (hgroup m).mpr (.inr hm)⟩
  · rcases List.mem_cons.mp hf' with rfl | hf'
    · rcases hm with hm | ⟨item, hitem, hm⟩ | hm
      · exact .inl ⟨group, List.mem_cons_self, (hgroup m).mpr (.inl hm)⟩
      · exact .inl ⟨item, List.mem_cons_of_mem _ hitem, hm⟩
      · exact .inr (.inl hm)
    · exact .inr (.inr ⟨f', hf', hm⟩)

theorem Reader.mentions_bar {r : Reader} : r.bar.Mentions m ↔ r.Mentions m := by
  simp [Reader.bar, Reader.Mentions, MentionedInItems, Ast.mem_mentions_ofItems, or_assoc]

theorem Reader.mentions_repeatLast {r r' : Reader} {min : ℕ} {max : Option ℕ} {greedy : Bool}
    (h : r.repeatLast min max greedy = some r') (hm : r.Mentions m) : r'.Mentions m := by
  rw [Reader.repeatLast.eq_def] at h
  split at h
  · cases h
  · cases h
  · rename_i last items _ hitems
    cases h
    simpa [Reader.Mentions, MentionedInItems, Ast.mentions, hitems] using hm

theorem Reader.mentions_enterCapture {r : Reader} :
    r.enterCapture.Mentions m ↔ r.Mentions m := by
  show (r.enter (.capture (r.captures + 1)) r.verbose).Mentions m ↔ _
  simp [Reader.mentions_enter, GroupKind.Mentions]

theorem Reader.mentions_enterNamed {r r' : Reader} {cs after : List Char}
    (h : r.enterNamed cs = some (r', after)) (hm : r.Mentions m) : r'.Mentions m := by
  obtain ⟨p, -, h⟩ := Option.bind_eq_some_iff.mp h
  split_ifs at h
  cases h
  exact Reader.mentions_enterCapture.mpr hm

theorem Reader.mentions_openGroup {r r' : Reader} {cs after : List Char}
    (h : r.openGroup cs = some (r', after)) (hm : r.Mentions m) : r'.Mentions m := by
  rw [Reader.openGroup] at h
  split_ifs at h
  split at h
  · exact Reader.mentions_enterNamed h hm
  · exact Reader.mentions_enterNamed h hm
  · split at h
    · cases h
    · split_ifs at h
      · cases h
        exact Reader.mentions_enter.mpr (.inr hm)
      · cases h
        exact Reader.mentions_push.mpr (.inr hm)
  · cases h
    exact Reader.mentions_enterCapture.mpr hm

theorem Reader.mentions_repeatSign {r r' : Reader} {min : ℕ} {max : Option ℕ}
    {rest after : List Char} (h : r.repeatSign min max rest = some (r', after))
    (hm : r.Mentions m) : r'.Mentions m := by
  rw [Reader.repeatSign.eq_def] at h
  split at h
  all_goals
    obtain ⟨r'', hr, hp⟩ := Option.map_eq_some_iff.mp h
    cases hp
    exact Reader.mentions_repeatLast hr hm

/-- **A step keeps what has been read.** -/
theorem Reader.mentions_readerStep {fuel : ℕ} {r r' : Reader} {c : Char} {rest after : List Char}
    (h : readerStep fuel r c rest = some (r', after)) (hm : r.Mentions m) : r'.Mentions m := by
  rw [readerStep.eq_def] at h
  split at h
  · exact Reader.mentions_openGroup h hm
  · obtain ⟨r'', hr, hp⟩ := Option.map_eq_some_iff.mp h
    cases hp
    exact Reader.mentions_closeGroup hr hm
  · cases h
    exact Reader.mentions_bar.mpr hm
  · obtain ⟨p, -, hp⟩ := Option.map_eq_some_iff.mp h
    cases hp
    exact Reader.mentions_push.mpr (.inr hm)
  · exact Reader.mentions_repeatSign h hm
  · exact Reader.mentions_repeatSign h hm
  · exact Reader.mentions_repeatSign h hm
  · obtain ⟨p, -, h⟩ := Option.bind_eq_some_iff.mp h
    obtain ⟨bounds, -, h⟩ := Option.bind_eq_some_iff.mp h
    exact Reader.mentions_repeatSign h hm
  · obtain ⟨p, -, hp⟩ := Option.map_eq_some_iff.mp h
    cases hp
    exact Reader.mentions_push.mpr (.inr hm)
  all_goals
    cases h
    exact Reader.mentions_push.mpr (.inr hm)

/-- **A pattern mentions everything that its reader had read.** -/
theorem mem_mentions_readAst {fuel : ℕ} {r : Reader} {cs : List Char} {ast : Ast}
    (h : readAst fuel r cs = some ast) (hm : r.Mentions m) : m ∈ ast.mentions := by
  induction fuel generalizing r cs with
  | zero => cases h
  | succ fuel ih =>
    rw [readAst] at h
    cases hcs : skipVerbose r.verbose cs with
    | nil =>
      simp only [hcs] at h
      split_ifs at h with hframes
      cases h
      rw [List.isEmpty_iff] at hframes
      rcases hm with hm | hm | ⟨f, hf, -⟩
      · exact Reader.mem_mentions_body.mpr (.inl hm)
      · exact Reader.mem_mentions_body.mpr (.inr hm)
      · rw [hframes] at hf
        cases hf
    | cons c rest =>
      simp only [hcs] at h
      cases hstep : readerStep fuel r c rest with
      | none => rw [hstep] at h; cases h
      | some p =>
        rw [hstep] at h
        exact ih h (Reader.mentions_readerStep hstep hm)

end BannerMatch.Pattern
