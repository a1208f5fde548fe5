import BannerMatch.Pattern.Basic
import BannerMatch.Proofs.Unescape.Brackets
import BannerMatch.Proofs.Unescape.Groups

/-!
# Unescaped patterns

A pattern means the same after unescaping if its escapes are harmless (`compile_unescape`). An
escape does harm in two ways only: it stands for white space in verbose mode, which drops it, or it
completes a named class (`not_alike_of_harmful`).

`readerStep_unescape` is one step of the reader and `readAst_unescape` is a whole run, by induction
on its steps. The two readers agree in plain form, and the texts that are left agree up to white
space that the next step drops.
-/

namespace BannerMatch.Probe

open BannerMatch.Pattern

variable {cs rest : List Char}

/-! ### Verbose mode -/

/-- Verbose mode is on, now or again after an open group, only if `S` holds. -/
structure VerboseOnlyIf (S : Prop) (r : Reader) : Prop where
  now : r.verbose = true → S
  outer : ∀ f ∈ r.frames, f.verbose = true → S

section Verbose

variable {S : Prop} {r r₁ : Reader}

theorem VerboseOnlyIf.enter (h : VerboseOnlyIf S r) (kind : GroupKind) {verbose : Bool}
    (hverbose : verbose = true → S) : VerboseOnlyIf S (r.enter kind verbose) where
  now := hverbose
  outer f hf := by
    rcases List.mem_cons.mp hf with rfl | hf
    · exact h.now
    · exact h.outer f hf

theorem VerboseOnlyIf.enterCapture (h : VerboseOnlyIf S r) : VerboseOnlyIf S r.enterCapture where
  now := h.now
  outer := (h.enter (.capture (r.captures + 1)) h.now).outer

theorem VerboseOnlyIf.enterNamed (h : VerboseOnlyIf S r)
    (hr : r.enterNamed cs = some (r₁, rest)) : VerboseOnlyIf S r₁ := by
  obtain ⟨p, -, hr⟩ := Option.bind_eq_some_iff.mp hr
  split_ifs at hr
  cases hr
  exact ⟨h.enterCapture.now, h.enterCapture.outer⟩

theorem VerboseOnlyIf.change (h : VerboseOnlyIf S r) {change : FlagChange}
    (hchange : change.value? .verbose = some true → S) :
    (change.value? .verbose).getD r.verbose = true → S := by
  intro hverbose
  cases hvalue : change.value? .verbose with
  | none =>
    rw [hvalue] at hverbose
    exact h.now hverbose
  | some b =>
    rw [hvalue] at hverbose
    exact hchange (hvalue.trans (congrArg some hverbose))

theorem VerboseOnlyIf.groupRead (h : VerboseOnlyIf S r) (hr : GroupRead r cs r₁ rest)
    (hflags : ∀ change, r₁.Mentions (.change change) → change.value? .verbose = some true → S) :
    VerboseOnlyIf S r₁ := by
  cases hr with
  | capture _ => exact h.enterCapture
  | long hname => exact h.enterNamed hname
  | short _ hname => exact h.enterNamed hname
  | @flags _ _ _ change _ _ =>
    exact h.enter _ (h.change (hflags change (Reader.mentions_enter.mpr (.inl rfl))))
  | @change _ _ _ _ change _ _ _ _ =>
    refine ⟨h.change (hflags change ?_), h.outer⟩
    exact (Reader.mentions_push (r := r)).mpr (.inl (List.mem_singleton_self _))

theorem VerboseOnlyIf.closeGroup (h : VerboseOnlyIf S r) (hr : r.closeGroup = some r₁) :
    VerboseOnlyIf S r₁ := by
  obtain ⟨f, frames, group, hframes, -, rfl⟩ := Reader.closeGroup_eq_some hr
  have houter := h.outer
  rw [hframes] at houter
  exact ⟨houter f List.mem_cons_self, fun f' hf' => houter f' (List.mem_cons_of_mem _ hf')⟩

theorem VerboseOnlyIf.repeatSign (h : VerboseOnlyIf S r) {min : ℕ} {max : Option ℕ}
    (hr : r.repeatSign min max cs = some (r₁, rest)) : VerboseOnlyIf S r₁ := by
  have hlast : ∀ {greedy r₂}, r.repeatLast min max greedy = some r₂ → VerboseOnlyIf S r₂ := by
    intro greedy r₂ hr₂
    rw [Reader.repeatLast.eq_def] at hr₂
    split at hr₂
    · cases hr₂
    · cases hr₂
    · cases hr₂
      exact ⟨h.now, h.outer⟩
  rw [Reader.repeatSign.eq_def] at hr
  split at hr
  all_goals
    obtain ⟨r₂, hr₂, heq⟩ := Option.map_eq_some_iff.mp hr
    cases heq
    exact hlast hr₂

/-- **Verbose mode is turned on by flags that are mentioned only.** -/
theorem VerboseOnlyIf.readerStep (h : VerboseOnlyIf S r) {fuel : ℕ} {c : Char} {after : List Char}
    (hr : readerStep fuel r c rest = some (r₁, after))
    (hflags : ∀ change, r₁.Mentions (.change change) → change.value? .verbose = some true → S) :
    VerboseOnlyIf S r₁ := by
  rw [readerStep.eq_def] at hr
  split at hr
  · exact h.groupRead (openGroup_eq_some_iff.mp hr) hflags
  · obtain ⟨r₂, hr₂, heq⟩ := Option.map_eq_some_iff.mp hr
    cases heq
    exact h.closeGroup hr₂
  · cases hr
    exact ⟨h.now, h.outer⟩
  · obtain ⟨p, -, heq⟩ := Option.map_eq_some_iff.mp hr
    cases heq
    exact ⟨h.now, h.outer⟩
  · exact h.repeatSign hr
  · exact h.repeatSign hr
  · exact h.repeatSign hr
  · obtain ⟨p, -, hr⟩ := Option.bind_eq_some_iff.mp hr
    obtain ⟨bounds, -, hr⟩ := Option.bind_eq_some_iff.mp hr
    exact h.repeatSign hr
  · obtain ⟨p, -, heq⟩ := Option.map_eq_some_iff.mp hr
    cases heq
    exact ⟨h.now, h.outer⟩
  all_goals
    cases hr
    exact ⟨h.now, h.outer⟩

end Verbose

/-! ### Steps -/

/-- An item that starts with a character that is no sign, or with a backslash, is pushed. -/
theorem Written.readerStep {r : Reader} {c : Char} {p : Primitive}
    (h : Written r.verbose (c :: cs) p rest) (fuel : ℕ) :
    readerStep fuel r c cs = some (r.push p.item, rest) := by
  rcases h with ⟨hc, _⟩ | h
  · rw [readerStep.eq_def]
    split
    case h_13 => rfl
    all_goals exact absurd hc (by decide)
  · rw [Pattern.readerStep, h]
    rfl

section Steps

variable {r r' r₁ : Reader} (hr : r'.plain = r.plain)
include hr

theorem closeGroup_unescape (h : r.closeGroup = some r₁) :
    ∃ r₁', r'.closeGroup = some r₁' ∧ r₁'.plain = r₁.plain := by
  rw [← Option.map_eq_some_iff, r'.plain_closeGroup, hr, ← r.plain_closeGroup, h]
  rfl

/-- **A step of the reader is taken alike.** -/
theorem readerStep_unescape {fuel fuel' : ℕ} {c : Char} {after : List Char}
    (hsafe : SpaceSafe r.verbose (c :: rest)) (hclass : ClassSafe (c :: rest))
    (h : readerStep fuel r c rest = some (r₁, after))
    (hname : ∀ q, r₁.Mentions (.property q) → '\\' ∉ q.chars)
    (hbrace : ∀ inner, after = '{' :: inner →
      (skipVerbose r₁.verbose inner).head? ≠ some '\\')
    (hfuel : (unescape (c :: rest)).length < fuel' + 1) :
    ∃ c' rest' r₁' mid, unescape (c :: rest) = c' :: rest' ∧
      readerStep fuel' r' c' rest' = some (r₁', unescape mid) ∧ r₁'.plain = r₁.plain ∧
      Beyond (c :: rest) mid ∧ skipVerbose r₁.verbose mid = skipVerbose r₁.verbose after := by
  by_cases hc : c = '\\'
  · subst hc
    obtain ⟨⟨p, after'⟩, hp, heq⟩ := Option.map_eq_some_iff.mp h
    cases heq
    obtain ⟨p', mid, hwritten, hplain, hbeyond, hskip⟩ := written_unescape hsafe hp
      (fun q negated hq => hname q (Reader.mentions_push.mpr (.inl (by
        subst hq
        exact List.mem_singleton_self _))))
      fun _ => hbrace
    obtain ⟨c', rest', heq⟩ := List.exists_cons_of_ne_nil
      (unescape_ne_nil (List.cons_ne_nil '\\' rest))
    have hverbose : r'.verbose = r.verbose := by rw [← r'.verbose_plain, hr, r.verbose_plain]
    rw [heq, ← hverbose] at hwritten
    refine ⟨c', rest', _, mid, heq, hwritten.readerStep fuel', ?_, hbeyond, hskip⟩
    rw [Reader.plain_push, Reader.plain_push, hr, Primitive.plain_item, Primitive.plain_item,
      hplain]
  · have hrest : Past (c :: rest) rest := .char hc (.refl _)
    have hsafe' := hsafe.past hrest
    rw [unescape_cons hc] at hfuel ⊢
    suffices hstep : ∃ r₁', readerStep fuel' r' c (unescape rest) = some (r₁', unescape after) ∧
        r₁'.plain = r₁.plain ∧ Past rest after by
      obtain ⟨r₁', hr₁', hplain, hpast⟩ := hstep
      exact ⟨c, unescape rest, r₁', after, rfl, hr₁', hplain, .char hc hpast, rfl⟩
    have hpush : ∀ item, ∃ r₁', some (r'.push item, unescape rest) = some (r₁', unescape rest) ∧
        r₁'.plain = (r.push item).plain ∧ Past rest rest := fun item =>
      ⟨_, rfl, by rw [Reader.plain_push, Reader.plain_push, hr], .refl _⟩
    have hsign : ∀ {min max}, r.repeatSign min max rest = some (r₁, after) →
        ∃ r₁', r'.repeatSign min max (unescape rest) = some (r₁', unescape after) ∧
          r₁'.plain = r₁.plain ∧ Past rest after := by
      intro min max hrepeat
      obtain ⟨heq, hpast⟩ := repeatSign_unescape hrepeat
      obtain ⟨r₁', hr₁', hplain⟩ := Reader.exists_of_plainStep
        (f := fun r => r.repeatSign min max (unescape rest))
        (fun r => r.plain_repeatSign min max _) hr heq
      exact ⟨r₁', hr₁', hplain, hpast⟩
    rw [readerStep.eq_def] at h
    split at h
    · obtain ⟨heq, hpast⟩ := openGroup_unescape hsafe' h
      obtain ⟨r₁', hr₁', hplain⟩ := Reader.exists_of_plainStep
        (f := fun r => r.openGroup (unescape rest)) (fun r => r.plain_openGroup _) hr heq
      exact ⟨r₁', hr₁', hplain, hpast⟩
    · obtain ⟨r₂, hr₂, heq⟩ := Option.map_eq_some_iff.mp h
      cases heq
      obtain ⟨r₁', hr₁', hplain⟩ := closeGroup_unescape hr hr₂
      exact ⟨r₁', by rw [readerStep, hr₁']; rfl, hplain, .refl _⟩
    · cases h
      exact ⟨r'.bar, rfl, by rw [Reader.plain_bar, Reader.plain_bar, hr], .refl _⟩
    · obtain ⟨⟨item, after'⟩, hitem, heq⟩ := Option.map_eq_some_iff.mp h
      cases heq
      obtain ⟨item', hitem', hplain, hpast⟩ := readBracket_unescape hitem hsafe' (hclass.past hrest)
        (fun q hq => hname q (Reader.mentions_push.mpr (.inl hq))) (Nat.lt_of_succ_lt_succ hfuel)
      have hverbose : r'.verbose = r.verbose := by rw [← r'.verbose_plain, hr, r.verbose_plain]
      refine ⟨r'.push item', by rw [readerStep, hverbose, hitem']; rfl, ?_, hpast⟩
      rw [Reader.plain_push, Reader.plain_push, hr, hplain]
    · exact hsign h
    · exact hsign h
    · exact hsign h
    · obtain ⟨heq, hpast⟩ := repeatBraces_unescape hsafe' h
      obtain ⟨r₁', hr₁', hplain⟩ := Reader.exists_of_plainStep
        (f := fun r => r.repeatBraces (unescape rest)) (fun r => r.plain_repeatBraces _) hr heq
      exact ⟨r₁', hr₁', hplain, hpast⟩
    · exact absurd rfl hc
    · cases h; exact hpush _
    · cases h; exact hpush _
    · cases h; exact hpush _
    · cases h
      rw [readerStep.eq_def]
      split
      case h_13 => exact hpush _
      all_goals contradiction

end Steps

/-! ### Patterns -/

/-- A brace that is read with success does not have a backslash behind it. -/
theorem head?_ne_of_readAst {fuel : ℕ} {r : Reader} {ast : Ast}
    (h : readAst fuel r ('{' :: cs) = some ast) : (skipVerbose r.verbose cs).head? ≠ some '\\' := by
  cases fuel with
  | zero => cases h
  | succ fuel =>
    have hskip : skipVerbose r.verbose ('{' :: cs) = '{' :: cs := by
      cases r.verbose <;> rfl
    rw [readAst, hskip] at h
    cases hstep : readerStep fuel r '{' cs with
    | none => simp only [hstep] at h; cases h
    | some p => exact head?_ne_of_repeatBraces hstep

/-- **A pattern is read alike**, from any place with only white space between that is dropped, and
with any fuel that is enough. -/
theorem readAst_unescape {S : Prop} {fuel fuel' : ℕ} {r r' : Reader} {mid : List Char} {ast : Ast}
    (h : readAst fuel r cs = some ast) (hr : r'.plain = r.plain) (hverbose : VerboseOnlyIf S r)
    (hmid : skipVerbose r.verbose mid = skipVerbose r.verbose cs) (hspace : S → AddsNoSpace mid)
    (hclass : ClassSafe mid) (hname : ∀ q, .property q ∈ ast.mentions → '\\' ∉ q.chars)
    (hflags : ∀ change, .change change ∈ ast.mentions → change.value? .verbose = some true → S)
    (hfuel : (unescape mid).length < fuel') :
    ∃ ast', readAst fuel' r' (unescape mid) = some ast' ∧ ast'.plain = ast.plain := by
  induction fuel generalizing fuel' r r' cs mid with
  | zero => cases h
  | succ fuel ih =>
    obtain ⟨fuel', rfl⟩ : ∃ k, fuel' = k + 1 := ⟨fuel' - 1, by omega⟩
    have hsafe : SpaceSafe r.verbose mid := fun hv => hspace (hverbose.now hv)
    have hskip := past_skipVerbose hsafe
    have hverbose' : r'.verbose = r.verbose := by rw [← r'.verbose_plain, hr, r.verbose_plain]
    rw [readAst] at h
    rw [readAst, hverbose', skipVerbose_unescape hsafe, hmid]
    rw [hmid] at hskip
    cases hcs : skipVerbose r.verbose cs with
    | nil =>
      simp only [hcs] at h
      split_ifs at h with hframes
      cases h
      have hframes' : r'.frames.isEmpty := by
        rw [← r'.isEmpty_frames_plain, hr, r.isEmpty_frames_plain, hframes]
      exact ⟨r'.body, by rw [unescape_nil]; simp only [hframes', if_true],
        by rw [r'.plain_body, hr, r.plain_body]⟩
    | cons c tail =>
      simp only [hcs] at h hskip
      cases hstep : readerStep fuel r c tail with
      | none => rw [hstep] at h; cases h
      | some p =>
        obtain ⟨r₁, after⟩ := p
        simp only [hstep] at h
        have hmentions : ∀ m, r₁.Mentions m → m ∈ ast.mentions := fun m => mem_mentions_readAst h
        have hbrace : ∀ inner, after = '{' :: inner →
            (skipVerbose r₁.verbose inner).head? ≠ some '\\' := by
          rintro inner rfl
          exact head?_ne_of_readAst h
        have hlength : (unescape (c :: tail)).length < fuel' + 1 :=
          Nat.lt_of_le_of_lt hskip.length_unescape_le hfuel
        obtain ⟨c', tail', r₁', mid₁, heq, hstep', hr₁, hmid₁, hskip₁⟩ := readerStep_unescape hr
          (hsafe.past hskip) (hclass.past hskip) hstep (fun q hq => hname q (hmentions _ hq)) hbrace
          hlength
        simp only [heq, hstep']
        have hpast := hskip.trans hmid₁.1
        have hlt := hmid₁.2
        exact ih h hr₁ (hverbose.readerStep hstep fun change hc => hflags change (hmentions _ hc))
          hskip₁ (fun hS => hpast.addsNoSpace (hspace hS)) (hclass.past hpast) (by omega)

/-- Whether the mention turns verbose mode on. -/
def turnsVerboseOn : Mention → Bool
  | .change change => change.value? .verbose == some true
  | .property _ => false

/-- No escape completes the name of a class after a bracket, and if the pattern turns verbose mode
on, none stands for white space. -/
structure HarmlessEscapes (body : List Char) : Prop where
  classes : ClassSafe body
  spaces : (Ast.read? body).any (fun ast => ast.mentions.any turnsVerboseOn) = true →
    AddsNoSpace body

instance (body : List Char) : Decidable (HarmlessEscapes body) :=
  decidable_of_iff (ClassSafe body ∧
      ((Ast.read? body).any (fun ast => ast.mentions.any turnsVerboseOn) = true →
        AddsNoSpace body))
    ⟨fun h => ⟨h.1, h.2⟩, fun h => ⟨h.1, h.2⟩⟩

/-- The unescaped pattern has another tree, but the same expression. -/
theorem read?_unescape {body : List Char} {ast : Ast} {e : Expr} (h : HarmlessEscapes body)
    (hast : Ast.read? body = some ast) (he : ast.expr? = some e) :
    ∃ ast', Ast.read? (unescape body) = some ast' ∧ ast'.expr? = some e := by
  obtain ⟨hread, hdepth⟩ : readAst (body.length + 1) {} body = some ast ∧
      ast.depth ≤ Ast.maxDepth := by
    rw [Ast.read?] at hast
    split at hast
    · cases hast
    · rename_i ast₁ hast₁
      split_ifs at hast with hdepth
      cases hast
      exact ⟨hast₁, hdepth⟩
  have hflags : ∀ change, .change change ∈ ast.mentions → change.value? .verbose = some true →
      AddsNoSpace body := by
    intro change hmem hvalue
    refine h.spaces ?_
    rw [hast]
    exact List.any_eq_true.mpr ⟨_, hmem, beq_iff_eq.mpr hvalue⟩
  have hstart : VerboseOnlyIf (AddsNoSpace body) {} :=
    { now := fun h => absurd h (by decide)
      outer := fun f hf => by cases hf }
  obtain ⟨ast', hread', hplain⟩ := readAst_unescape hread rfl hstart rfl id h.classes
    (fun q hq => Ast.backslash_not_mem_of_expr? he hq) hflags (Nat.lt_succ_self _)
  refine ⟨ast', ?_, ?_⟩
  · rw [Ast.read?, hread']
    simp only
    rw [if_pos]
    rwa [← ast'.depth_plain, hplain, ast.depth_plain]
  · rw [← he, Ast.expr?, Ast.expr?, ← Ast.exprWith_plain _ ast', hplain, Ast.exprWith_plain]

theorem machine?_unescape {body : List Char} {m : Machine} (h : HarmlessEscapes body)
    (hm : Pattern.machine? body = .ok m) : Pattern.machine? (unescape body) = .ok m := by
  rw [Pattern.machine?] at hm
  cases hast : Ast.read? body with
  | none => rw [hast] at hm; cases hm
  | some ast =>
    simp only [hast] at hm
    cases he : ast.expr? with
    | none => rw [he] at hm; cases hm
    | some e =>
      obtain ⟨ast', hast', he'⟩ := read?_unescape h hast he
      simp only [he] at hm
      rw [Pattern.machine?, hast']
      simp only [he']
      exact hm

/-- **Unescaping keeps the meaning of a pattern with harmless escapes**: if the pattern can be
compiled, so can the unescaped one, and both find the same matches, group by group, in every
text. -/
theorem compile_unescape {body : String} {p : Pattern} (hp : Pattern.compile body = .ok p)
    (h : HarmlessEscapes body.toList) :
    ∃ q, Pattern.compile (String.ofList (unescape body.toList)) = .ok q ∧
      q.groupCount = p.groupCount ∧
      ∀ text, q.isMatch text = p.isMatch text ∧ q.find? text = p.find? text := by
  rw [Pattern.compile] at hp
  cases hm : Pattern.machine? body.toList with
  | error f => rw [hm] at hp; cases hp
  | ok m =>
    rw [hm] at hp
    cases hp
    refine ⟨⟨String.ofList (unescape body.toList), m⟩, ?_, rfl, fun text => ⟨rfl, rfl⟩⟩
    rw [Pattern.compile, String.toList_ofList, machine?_unescape h hm]
    rfl

/-- Signs, classes, ranges, bytes above ASCII and verbose mode, with escapes in all of them. -/
def mixedBody : String := "^\\x5b\\x41+[\\x2e\\x2d-\\x7e]\x7b2,\x7d(?x: \\xe9 \\\\ # \\x41\n)"

theorem compile_unescape_mixedBody :
    HarmlessEscapes mixedBody.toList ∧
      ∃ p q, Pattern.compile mixedBody = .ok p ∧
        Pattern.compile (String.ofList (unescape mixedBody.toList)) = .ok q ∧
        q.groupCount = p.groupCount ∧
        ∀ text, q.isMatch text = p.isMatch text ∧ q.find? text = p.find? text := by
  have hharmless : HarmlessEscapes mixedBody.toList := by decide +kernel
  have hok : (Pattern.compile mixedBody).toOption.isSome = true := by decide +kernel
  cases hp : Pattern.compile mixedBody with
  | error f => rw [hp] at hok; cases hok
  | ok p =>
    obtain ⟨q, hq⟩ := compile_unescape hp hharmless
    exact ⟨hharmless, p, q, rfl, hq⟩

/-- Whether a pattern matches in a text, if it can be compiled. -/
def finds? (pattern text : String) : Option Bool :=
  (Pattern.compile pattern).toOption.map fun p => p.isMatch text

/-- Neither condition can be left out. In the first pattern the blank that an escape stands for is
dropped by verbose mode, in the second one the colon that an escape stands for makes a named
class. -/
theorem not_alike_of_harmful :
    (finds? "(?x)a\\x20b" "a b" = some true ∧
        finds? (String.ofList (unescape "(?x)a\\x20b".toList)) "a b" = some false ∧
        ClassSafe "(?x)a\\x20b".toList) ∧
      (finds? "[[\\x3aalpha:]]" "z" = some false ∧
        finds? (String.ofList (unescape "[[\\x3aalpha:]]".toList)) "z" = some true ∧
        AddsNoSpace "[[\\x3aalpha:]]".toList) := by
  decide +kernel

end BannerMatch.Probe
