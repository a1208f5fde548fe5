import BannerMatch.Proofs.Unescape.Escapes

/-!
# Unescaped text: bracketed classes

A class is read alike before and after unescaping (`readBracket_unescape`), by
`bracketStep_unescape` for one step and `readLevels_unescape` for all of them. A colon or a letter
that an escape stands for could complete a named class such as `[:alpha:]`, where the text before
had a bracket inside a bracket; `ClassSafe` asks that none does. Everything else that means
something inside brackets is a sign, and signs are never written for an escape without a
backslash.
-/

namespace BannerMatch.Probe

open BannerMatch.Pattern
open BannerMatch.Text (isBlank IsSolid)

variable {verbose : Bool} {cs rest : List Char}

/-! ### Named classes -/

theorem backslash_not_mem_of_asciiClass? {name : List Char} {c : AsciiClass}
    (h : asciiClass? name = some c) : '\\' ∉ name := by
  rw [asciiClass?.eq_def] at h
  have hname : name = (String.ofList name).toList := String.toList_ofList.symm
  split at h
  case h_15 => cases h
  all_goals
    rename_i heq
    rw [hname, heq]
    decide

/-- Reads the rest of a named class after its sign. -/
def readClassName (negated : Bool) (cs : List Char) : Option (ClassSet × List Char) :=
  match splitAtMark [':'] cs with
  | some (name, ']' :: after) => (asciiClass? name).map fun c => (.ascii c negated, after)
  | _ => none

theorem readNamedClass_colon (cs : List Char) :
    readNamedClass (':' :: cs) =
      readClassName (cs.head? == some '^') (if cs.head? == some '^' then cs.drop 1 else cs) := rfl

theorem readClassName_unescape {negated : Bool} {item : ClassSet}
    (h : readClassName negated cs = some (item, rest)) :
    readClassName negated (unescape cs) = some (item, unescape rest) ∧ Past cs rest := by
  rw [readClassName] at h ⊢
  split at h
  · rename_i name after hsplit
    obtain ⟨c, hc, heq⟩ := Option.map_eq_some_iff.mp h
    cases heq
    obtain ⟨heq, hpast⟩ := splitAtMark_unescape hsplit (by decide)
      (backslash_not_mem_of_asciiClass? hc)
    rw [heq, unescape_cons (by decide)]
    exact ⟨by simp only [hc, Option.map_some], hpast.trans (.char (by decide) (.refl _))⟩
  · cases h

/-- A named class stays one. -/
theorem readNamedClass_unescape {item : ClassSet} (h : readNamedClass cs = some (item, rest)) :
    readNamedClass (unescape cs) = some (item, unescape rest) ∧ Past cs rest := by
  rw [readNamedClass.eq_def] at h
  split at h
  · rename_i tail
    replace h : readNamedClass (':' :: tail) = some (item, rest) := h
    rw [unescape_cons (by decide)]
    rw [readNamedClass_colon] at h ⊢
    have hhead : ((unescape tail).head? == some '^') = (tail.head? == some '^') := by
      rw [Bool.eq_iff_iff, beq_iff_eq, beq_iff_eq]
      exact head?_unescape_iff (by decide) (by decide) tail
    rw [hhead]
    split_ifs at h ⊢ with hnegated
    · obtain ⟨t, rfl⟩ := List.head?_eq_some_iff.mp (beq_iff_eq.mp hnegated)
      obtain ⟨heq, hpast⟩ := readClassName_unescape h
      rw [unescape_cons (by decide)]
      exact ⟨heq, .char (by decide) (.char (by decide) hpast)⟩
    · obtain ⟨heq, hpast⟩ := readClassName_unescape h
      exact ⟨heq, .char (by decide) hpast⟩
  · cases h

/-- The start of a class. -/
theorem openLevel_unescape (hsafe : SpaceSafe verbose cs) :
    openLevel verbose (unescape cs) =
        ((openLevel verbose cs).1, unescape (openLevel verbose cs).2) ∧
      Past cs (openLevel verbose cs).2 := by
  have hskip := past_skipVerbose hsafe
  rw [openLevel, openLevel, skipVerbose_unescape hsafe]
  generalize skipVerbose verbose cs = ds at *
  cases ds with
  | nil => exact ⟨rfl, hskip⟩
  | cons c tail =>
    by_cases hc : c = '^'
    · subst hc
      rw [unescape_cons (by decide)]
      exact ⟨rfl, hskip.trans (.char (by decide) (.refl _))⟩
    · have hne : ∀ t, unescape (c :: tail) ≠ '^' :: t :=
        unescape_ne_cons (by decide) (by decide) fun t ht => hc (List.cons.inj ht).1
      split
      · rename_i t ht
        exact absurd ht (hne t)
      · split
        · rename_i t ht
          exact absurd (List.cons.inj ht).1 hc
        · exact ⟨rfl, hskip⟩

/-! ### Items -/

theorem readClassPrimitive_of_ne {c : Char} (hc : c ≠ '\\') (tail : List Char) :
    readClassPrimitive verbose (c :: tail) = some (.literal { char := c }, tail) := by
  rw [readClassPrimitive.eq_def]
  split
  · rename_i h
    cases h
  · rename_i h
    cases h
    exact absurd rfl hc
  · rename_i h
    cases h
    rfl

theorem Written.readClassPrimitive {p : Primitive} (h : Written verbose cs p rest) :
    readClassPrimitive verbose cs = some (p, rest) := by
  cases h with
  | @char c hc tail =>
    have hne : c ≠ '\\' := by
      rintro rfl
      exact absurd hc (by decide)
    exact readClassPrimitive_of_ne hne rest
  | escape h => exact h

theorem readClassPrimitive_unescape {p : Primitive} (hsafe : SpaceSafe verbose cs)
    (h : readClassPrimitive verbose cs = some (p, rest))
    (hname : ∀ q negated, p = .property q negated → '\\' ∉ q.chars)
    (hassertion : ∀ a, p ≠ .assertion a) :
    ∃ p' mid, readClassPrimitive verbose (unescape cs) = some (p', unescape mid) ∧
      p'.plain = p.plain ∧ Beyond cs mid ∧ skipVerbose verbose mid = skipVerbose verbose rest := by
  cases cs with
  | nil => cases h
  | cons c tail =>
    by_cases hc : c = '\\'
    · subst hc
      obtain ⟨p', mid, hwritten, hplain, hbeyond, hskip⟩ := written_unescape hsafe h hname
        fun h => absurd h (hassertion _)
      exact ⟨p', mid, hwritten.readClassPrimitive, hplain, hbeyond, hskip⟩
    · rw [readClassPrimitive_of_ne hc] at h
      cases h
      rw [unescape_cons hc, readClassPrimitive_of_ne hc]
      exact ⟨_, rest, rfl, rfl, .char hc (.refl _), rfl⟩

theorem trimStart_unescape (h : AddsNoSpace cs) :
    Text.trimStart (unescape cs) = unescape (Text.trimStart cs) ∧ Past cs (Text.trimStart cs) := by
  induction cs using unescape_induction with
  | nil => exact ⟨rfl, .refl _⟩
  | char c tail hc ih =>
    have ih := ih (h.of_cons hc)
    simp only [Text.trimStart] at ih ⊢
    rw [unescape_cons hc, List.dropWhile_cons, List.dropWhile_cons]
    split_ifs
    · exact ⟨ih.1, .char hc ih.2⟩
    · exact ⟨(unescape_cons hc tail).symm, .refl _⟩
  | escape tail n after hescape ih =>
    obtain ⟨hsolid, -⟩ := h.of_escape hescape
    obtain ⟨c, letters, heq, -⟩ := literalPattern_eq_cons n
    have hblank : isBlank c = false := hsolid c (heq ▸ List.mem_cons_self)
    have hstay : Text.trimStart ('\\' :: tail) = '\\' :: tail := rfl
    rw [hstay, unescape_escape hescape, heq, List.cons_append, Text.trimStart, List.dropWhile_cons,
      if_neg (by simp [hblank])]
    exact ⟨rfl, .refl _⟩
  | other tail hother ih =>
    rw [unescape_other hother]
    exact ⟨(unescape_other hother).symm, .refl _⟩

/-- The character that decides about a hyphen is the same, as far as it matters. -/
theorem afterHyphen_unescape (hsafe : SpaceSafe verbose cs) {m : Char} (hmeta : isMeta m = true)
    (hm : m ≠ '\\') :
    (afterHyphen verbose (unescape cs) == some m) = (afterHyphen verbose cs == some m) := by
  rw [Bool.eq_iff_iff, beq_iff_eq, beq_iff_eq]
  cases verbose with
  | false => exact head?_unescape_iff hmeta hm cs
  | true =>
    obtain ⟨heq, hpast⟩ := trimStart_unescape (hsafe rfl)
    simp only [afterHyphen, if_pos, heq]
    have hspace := hpast.addsNoSpace (hsafe rfl)
    generalize Text.trimStart cs = ds at *
    cases ds with
    | nil => exact Iff.rfl
    | cons c tail =>
      by_cases hc : c = '#'
      · subst hc
        have htail := hspace.of_cons (by decide)
        simp only [unescape_cons (show '#' ≠ '\\' by decide), (trimStart_unescape htail).1]
        exact head?_unescape_iff hmeta hm _
      · have hne : ∀ t, unescape (c :: tail) ≠ '#' :: t :=
          unescape_ne_cons (by decide) (by decide) fun t ht => hc (List.cons.inj ht).1
        split
        · rename_i t ht
          exact absurd ht (hne t)
        · split
          · rename_i t ht
            exact absurd (List.cons.inj ht).1 hc
          · exact head?_unescape_iff hmeta hm _

/-- What can be read as one item of a class: a character or escape with no range behind it, or a
range. -/
inductive ItemRead (verbose : Bool) (cs : List Char) : ClassSet → List Char → Prop
  | single {p : Primitive} {item : ClassSet} {after : List Char}
      (hp : readClassPrimitive verbose cs = some (p, after)) (hitem : p.classItem? = some item)
      (hrange : ∀ inner, skipVerbose verbose after = '-' :: inner →
        (afterHyphen verbose inner == some ']' || afterHyphen verbose inner == some '-') = true) :
      ItemRead verbose cs item (skipVerbose verbose after)
  | range {p q : Primitive} {low high : Literal} {after inner rest : List Char}
      (hp : readClassPrimitive verbose cs = some (p, after))
      (hafter : skipVerbose verbose after = '-' :: inner)
      (hrange : (afterHyphen verbose inner == some ']' ||
        afterHyphen verbose inner == some '-') = false)
      (hq : readClassPrimitive verbose (skipVerbose verbose inner) = some (q, rest))
      (hlow : p.literal? = some low) (hhigh : q.literal? = some high)
      (hle : low.char ≤ high.char) : ItemRead verbose cs (.range low high) rest

theorem readClassItem_eq_some_iff {item : ClassSet} :
    readClassItem verbose cs = some (item, rest) ↔ ItemRead verbose cs item rest := by
  constructor
  · intro h
    obtain ⟨⟨p, after⟩, hp, h⟩ := Option.bind_eq_some_iff.mp h
    simp only at h
    split at h
    · rename_i inner hafter
      split_ifs at h with hrange
      · obtain ⟨i, hi, h⟩ := Option.bind_eq_some_iff.mp h
        cases h
        rw [← hafter]
        refine .single hp hi fun inner' hinner => ?_
        rw [hafter] at hinner
        cases hinner
        exact hrange
      · obtain ⟨⟨q, after'⟩, hq, h⟩ := Option.bind_eq_some_iff.mp h
        obtain ⟨low, hlow, h⟩ := Option.bind_eq_some_iff.mp h
        obtain ⟨high, hhigh, h⟩ := Option.bind_eq_some_iff.mp h
        split_ifs at h with hle
        cases h
        exact .range hp hafter (Bool.eq_false_iff.mpr hrange) hq hlow hhigh hle
    · rename_i hhyphen
      obtain ⟨i, hi, h⟩ := Option.bind_eq_some_iff.mp h
      cases h
      exact .single hp hi fun inner hinner => absurd hinner (hhyphen inner)
  · intro h
    cases h with
    | @single p item after hp hitem hrange =>
      simp only [readClassItem, hp, Option.bind_eq_bind, Option.bind_some]
      split
      · rename_i inner hafter
        rw [if_pos (hrange inner hafter), hitem, hafter]
        rfl
      · rw [hitem]
        rfl
    | range hp hafter hrange hq hlow hhigh hle =>
      simp only [readClassItem, hp, hafter, hrange, hq, hlow, hhigh, hle, Option.bind_eq_bind,
        Option.bind_some, Bool.false_eq_true, if_false, if_true]
      rfl

/-- A hyphen makes a range in the unescaped text where it makes one in the text. -/
theorem hyphen_unescape (hsafe : SpaceSafe verbose cs) :
    (afterHyphen verbose (unescape cs) == some ']' ||
        afterHyphen verbose (unescape cs) == some '-') =
      (afterHyphen verbose cs == some ']' || afterHyphen verbose cs == some '-') := by
  rw [afterHyphen_unescape hsafe (by decide) (by decide),
    afterHyphen_unescape hsafe (by decide) (by decide)]

theorem exists_classItem? {p p' : Primitive} {item : ClassSet} (h : p'.plain = p.plain)
    (hitem : p.classItem? = some item) :
    ∃ item', p'.classItem? = some item' ∧ item'.plain = item.plain := by
  rw [← Option.map_eq_some_iff, p'.plain_classItem?, h, ← p.plain_classItem?, hitem]
  rfl

theorem exists_literal? {p p' : Primitive} {l : Literal} (h : p'.plain = p.plain)
    (hl : p.literal? = some l) : ∃ l', p'.literal? = some l' ∧ l'.plain = l.plain := by
  rw [← Option.map_eq_some_iff, p'.plain_literal?, h, ← p.plain_literal?, hl]
  rfl

theorem readClassPrimitive_literal_unescape {p : Primitive} {l : Literal}
    (hsafe : SpaceSafe verbose cs) (h : readClassPrimitive verbose cs = some (p, rest))
    (hl : p.literal? = some l) :
    ∃ p' l' mid, readClassPrimitive verbose (unescape cs) = some (p', unescape mid) ∧
      p'.literal? = some l' ∧ l'.plain = l.plain ∧ Beyond cs mid ∧
      skipVerbose verbose mid = skipVerbose verbose rest := by
  obtain ⟨p', mid, hp', hplain, hbeyond, hskip⟩ := readClassPrimitive_unescape hsafe h
    (fun q negated hq => by subst hq; cases hl) (fun a ha => by subst ha; cases hl)
  obtain ⟨l', hl', hplain'⟩ := exists_literal? hplain hl
  exact ⟨p', l', mid, hp', hl', hplain', hbeyond, hskip⟩

/-- **Items of classes are read alike.** -/
theorem readClassItem_unescape {item : ClassSet} (hsafe : SpaceSafe verbose cs)
    (h : readClassItem verbose cs = some (item, rest))
    (hname : ∀ q, .property q ∈ item.mentions → '\\' ∉ q.chars) :
    ∃ item' mid, readClassItem verbose (unescape cs) = some (item', unescape mid) ∧
      item'.plain = item.plain ∧ Beyond cs mid ∧
      skipVerbose verbose mid = skipVerbose verbose rest := by
  have hhyphen : '-' ≠ '\\' := by decide
  cases readClassItem_eq_some_iff.mp h with
  | @single p item after hp hitem hrange =>
    obtain ⟨p', mid, hp', hplain, hbeyond, hskip⟩ := readClassPrimitive_unescape hsafe hp
      (fun q negated hq => hname q (by subst hq; cases hitem; exact List.mem_singleton_self _))
      (fun a ha => by subst ha; cases hitem)
    have hmid := hsafe.past hbeyond.1
    obtain ⟨item', hitem', hplain'⟩ := exists_classItem? hplain hitem
    refine ⟨item', skipVerbose verbose mid, ?_, hplain', hbeyond.past (past_skipVerbose hmid), ?_⟩
    · rw [readClassItem_eq_some_iff, ← skipVerbose_unescape hmid]
      refine .single hp' hitem' fun inner' hinner => ?_
      rw [skipVerbose_unescape hmid] at hinner
      obtain ⟨inner, heq⟩ := unescape_eq_cons (by decide) hhyphen hinner
      rw [heq, unescape_cons hhyphen] at hinner
      cases hinner
      have hpast : Past mid inner := (past_skipVerbose hmid).trans (by
        rw [heq]
        exact .char hhyphen (.refl _))
      rw [hyphen_unescape (hmid.past hpast)]
      exact hrange inner (hskip ▸ heq)
    · rw [skipVerbose_skipVerbose, skipVerbose_skipVerbose, hskip]
  | @range p q low high after inner rest hp hafter hrange hq hlow hhigh hle =>
    obtain ⟨p', low', mid, hp', hlow', hplainLow, hbeyond, hskip⟩ :=
      readClassPrimitive_literal_unescape hsafe hp hlow
    have hmid := hsafe.past hbeyond.1
    have hpast : Past mid inner := (past_skipVerbose hmid).trans (by
      rw [hskip, hafter]
      exact .char hhyphen (.refl _))
    have hinner := hmid.past hpast
    obtain ⟨q', high', mid', hq', hhigh', hplainHigh, hbeyond', hskip'⟩ :=
      readClassPrimitive_literal_unescape (hinner.past (past_skipVerbose hinner)) hq hhigh
    refine ⟨.range low' high', mid', ?_, ?_, ?_, hskip'⟩
    · have hafter' : skipVerbose verbose (unescape mid) = '-' :: unescape inner := by
        rw [skipVerbose_unescape hmid, hskip, hafter, unescape_cons hhyphen]
      rw [readClassItem_eq_some_iff]
      refine .range hp' hafter' ?_ ?_ hlow' hhigh' ?_
      · rw [hyphen_unescape hinner, hrange]
      · rw [skipVerbose_unescape hinner, hq']
      · rw [← low'.char_plain, ← high'.char_plain, hplainLow, hplainHigh]
        exact hle
    · rw [ClassSet.plain, ClassSet.plain, hplainLow, hplainHigh]
    · exact hbeyond.past (hpast.trans ((past_skipVerbose hinner).trans hbeyond'.1))

/-! ### Levels -/

/-- No escape completes the name of a class after a bracket. -/
def ClassSafe (cs : List Char) : Prop :=
  ∀ rest, '[' :: rest <:+ cs → readNamedClass rest = none → readNamedClass (unescape rest) = none

instance (cs : List Char) : Decidable (ClassSafe cs) :=
  decidable_of_iff (∀ tail ∈ cs.tails, tail.head? = some '[' →
      readNamedClass tail.tail = none → readNamedClass (unescape tail.tail) = none) <| by
    constructor
    · intro h rest hrest
      exact h ('[' :: rest) ((List.mem_tails _ _).mpr hrest) rfl
    · intro h tail htail hhead
      obtain ⟨rest, rfl⟩ := List.head?_eq_some_iff.mp hhead
      exact h rest ((List.mem_tails _ _).mp htail)

theorem ClassSafe.past (h : ClassSafe cs) (hpast : Past cs rest) : ClassSafe rest :=
  fun tail htail => h tail (htail.trans hpast.suffix)

/-- The results of a step in a text and of a step in the unescaped text. -/
inductive StepsAlike (verbose : Bool) (cs : List Char) : BracketStep → BracketStep → Prop
  | done {negated : Bool} {body body' : ClassSet} {rest : List Char}
      (hbody : body'.plain = body.plain) (hrest : Beyond cs rest) :
      StepsAlike verbose cs (.done negated body rest) (.done negated body' (unescape rest))
  | next {level level' : Level} {outer outer' : List Level} {rest mid : List Char}
      (hlevel : level'.plain = level.plain)
      (houter : outer'.map Level.plain = outer.map Level.plain)
      (hmid : Beyond cs mid) (hskip : skipVerbose verbose mid = skipVerbose verbose rest) :
      StepsAlike verbose cs (.next level outer rest) (.next level' outer' (unescape mid))

/-- A character that is no sign, or a backslash, starts an item. -/
theorem bracketStep_item (level : Level) (outer : List Level) {c : Char} (rest : List Char)
    (hc : isMeta c = false ∨ c = '\\') :
    bracketStep verbose level outer c rest =
      (readClassItem verbose (c :: rest)).map fun p => .next (level.push p.1) outer p.2 := by
  have hne : ∀ m, isMeta m = true → m ≠ '\\' → c ≠ m := by
    rintro m hmeta hm rfl
    rcases hc with hc | hc
    · rw [hmeta] at hc
      cases hc
    · exact hm hc
  have h1 := hne '-' (by decide) (by decide)
  have h2 := hne ']' (by decide) (by decide)
  have h3 := hne '[' (by decide) (by decide)
  have h4 := hne '&' (by decide) (by decide)
  have h5 := hne '~' (by decide) (by decide)
  simp [bracketStep, h1, h2, h3, h4, h5]

section Steps

variable {level level' : Level} {outer outer' : List Level} (hlevel : level'.plain = level.plain)
  (houter : outer'.map Level.plain = outer.map Level.plain)
include hlevel houter

theorem classItem_unescape {step : BracketStep} (hsafe : SpaceSafe verbose cs)
    (h : (readClassItem verbose cs).map (fun p => .next (level.push p.1) outer p.2) = some step)
    (hname : ∀ q, step.Mentions (.property q) → '\\' ∉ q.chars) :
    ∃ step', (readClassItem verbose (unescape cs)).map
        (fun p => .next (level'.push p.1) outer' p.2) = some step' ∧
      StepsAlike verbose cs step step' := by
  obtain ⟨⟨item, after⟩, hitem, heq⟩ := Option.map_eq_some_iff.mp h
  subst heq
  obtain ⟨item', mid, hitem', hplain, hbeyond, hskip⟩ := readClassItem_unescape hsafe hitem
    fun q hq => hname q (mentionedIn_cons.mpr (.inl (Level.mentions_push.mpr (.inl hq))))
  refine ⟨_, by rw [hitem']; rfl, .next ?_ houter hbeyond hskip⟩
  rw [Level.plain_push, Level.plain_push, hlevel, hplain]

/-- **A step in a class is taken alike.** -/
theorem bracketStep_unescape {c : Char} {step : BracketStep} (hsafe : SpaceSafe verbose (c :: rest))
    (hclass : ClassSafe (c :: rest)) (h : bracketStep verbose level outer c rest = some step)
    (hname : ∀ q, step.Mentions (.property q) → '\\' ∉ q.chars) :
    ∃ c' rest' step', unescape (c :: rest) = c' :: rest' ∧
      bracketStep verbose level' outer' c' rest' = some step' ∧
      StepsAlike verbose (c :: rest) step step' := by
  by_cases hc : c = '\\'
  · subst hc
    obtain ⟨c', rest', heq, hsign⟩ := exists_unescape_backslash rest
    rw [bracketStep_item _ _ _ (.inr rfl)] at h
    obtain ⟨step', hstep', halike⟩ := classItem_unescape hlevel houter hsafe h hname
    rw [heq] at hstep'
    exact ⟨c', rest', step', heq, by rw [bracketStep_item _ _ _ hsign, hstep'], halike⟩
  · have hrest : Past (c :: rest) rest := .char hc (.refl _)
    have hafter : Beyond (c :: rest) rest := .char hc (.refl _)
    have hopening : level'.opening = level.opening := by
      rw [← level'.opening_plain, hlevel, level.opening_plain]
    have hempty : level'.items.isEmpty = level.items.isEmpty := by
      rw [← level'.isEmpty_items_plain, hlevel, level.isEmpty_items_plain]
    have hhead : ∀ m, isMeta m = true → m ≠ '\\' →
        ((unescape rest).head? == some m) = (rest.head? == some m) := by
      intro m hmeta hm
      rw [Bool.eq_iff_iff, beq_iff_eq, beq_iff_eq]
      exact head?_unescape_iff hmeta hm rest
    have hoperate : ∀ m op, m ≠ '\\' → (rest.head? == some m) = true →
        some (.next (level.operate op) outer (rest.drop 1)) = some step →
        ∃ step', some (.next (level'.operate op) outer' ((unescape rest).drop 1)) = some step' ∧
          StepsAlike verbose (c :: rest) step step' := by
      intro m op hm hfirst hstep
      cases hstep
      obtain ⟨tail, rfl⟩ := List.head?_eq_some_iff.mp (beq_iff_eq.mp hfirst)
      rw [unescape_cons hm]
      refine ⟨_, rfl, .next ?_ houter (.char hc (.char hm (.refl _))) rfl⟩
      rw [Level.plain_operate, Level.plain_operate, hlevel]
    refine ⟨c, unescape rest, ?_⟩
    rw [unescape_cons hc]
    simp only [true_and]
    unfold bracketStep at h ⊢
    rw [hopening, hempty, hhead '&' (by decide) (by decide), hhead '-' (by decide) (by decide),
      hhead '~' (by decide) (by decide)]
    split_ifs at h ⊢ with hhyphen hclose hopen hend hinter hdiff hsymm
    · cases h
      refine ⟨_, rfl, .next ?_ houter hafter rfl⟩
      obtain ⟨hnegated, -, hpending, hitems⟩ := Level.mk.inj hlevel
      simp only [Level.plain, List.map_cons, hnegated, hpending, hitems]
    · cases h
      exact ⟨_, rfl, .next (by rw [Level.plain_push, Level.plain_push, hlevel]) houter hafter rfl⟩
    · cases hnamed : readNamedClass rest with
      | some p =>
        obtain ⟨item, after⟩ := p
        rw [hnamed] at h
        cases h
        obtain ⟨heq, hpast⟩ := readNamedClass_unescape hnamed
        rw [heq]
        refine ⟨_, rfl, .next ?_ houter (.char hc hpast) rfl⟩
        rw [Level.plain_push, Level.plain_push, hlevel]
      | none =>
        rw [hnamed] at h
        cases h
        obtain ⟨heq, hpast⟩ := openLevel_unescape (hsafe.past hrest)
        rw [hclass rest (by rw [hopen]) hnamed, heq]
        refine ⟨_, rfl, .next rfl ?_ (.char hc hpast) rfl⟩
        rw [List.map_cons, List.map_cons, hlevel, houter]
    · cases outer with
      | nil =>
        cases h
        rw [List.map_nil, List.map_eq_nil_iff] at houter
        subst houter
        rw [← level'.negated_plain, hlevel, level.negated_plain]
        refine ⟨_, rfl, .done ?_ hafter⟩
        rw [level'.plain_body, hlevel, level.plain_body]
      | cons parent outer =>
        cases h
        obtain ⟨parent', outer', rfl, hparent, houter⟩ := List.map_eq_cons_iff.mp houter
        refine ⟨_, rfl, .next ?_ houter hafter rfl⟩
        rw [Level.plain_push, Level.plain_push, hparent, ClassSet.plain, ClassSet.plain,
          level'.plain_body, hlevel, level.plain_body, ← level'.negated_plain, hlevel,
          level.negated_plain]
    · exact hoperate '&' .inter (by decide) (Bool.and_eq_true_iff.mp hinter).2 h
    · exact hoperate '-' .diff (by decide) (Bool.and_eq_true_iff.mp hdiff).2 h
    · exact hoperate '~' .symmDiff (by decide) (Bool.and_eq_true_iff.mp hsymm).2 h
    · rw [← unescape_cons hc]
      exact classItem_unescape hlevel houter hsafe h hname

end Steps

/-- **Classes are read alike.** The unescaped text may be read from another place, if only white
space that is dropped lies between, and with any fuel that is enough for it. -/
theorem readLevels_unescape {fuel fuel' : ℕ} {level level' : Level} {outer outer' : List Level}
    {mid : List Char} {ast : Ast} (h : readLevels verbose fuel level outer cs = some (ast, rest))
    (hlevel : level'.plain = level.plain) (houter : outer'.map Level.plain = outer.map Level.plain)
    (hmid : skipVerbose verbose mid = skipVerbose verbose cs) (hsafe : SpaceSafe verbose mid)
    (hclass : ClassSafe mid) (hname : ∀ q, .property q ∈ ast.mentions → '\\' ∉ q.chars)
    (hfuel : (unescape mid).length < fuel') :
    ∃ ast', readLevels verbose fuel' level' outer' (unescape mid) = some (ast', unescape rest) ∧
      ast'.plain = ast.plain ∧ Past mid rest := by
  induction fuel generalizing fuel' level level' outer outer' cs mid with
  | zero => cases h
  | succ fuel ih =>
    obtain ⟨fuel', rfl⟩ : ∃ k, fuel' = k + 1 := ⟨fuel' - 1, by omega⟩
    have hskip := past_skipVerbose hsafe
    rw [readLevels] at h
    rw [readLevels, skipVerbose_unescape hsafe, hmid]
    rw [hmid] at hskip
    cases hcs : skipVerbose verbose cs with
    | nil => rw [hcs] at h; cases h
    | cons c tail =>
      simp only [hcs] at h hskip
      have hsafe' := hsafe.past hskip
      have hclass' := hclass.past hskip
      cases hstep : bracketStep verbose level outer c tail with
      | none => rw [hstep] at h; cases h
      | some step =>
        rw [hstep] at h
        have hmentions : ∀ q, step.Mentions (.property q) → '\\' ∉ q.chars := by
          intro q hq
          refine hname q ?_
          cases step with
          | done negated body after => cases h; exact hq
          | next level₁ outer₁ after => exact mem_mentions_readLevels h hq
        obtain ⟨c', tail', step', heq, hstep', halike⟩ :=
          bracketStep_unescape hlevel houter hsafe' hclass' hstep hmentions
        simp only [heq, hstep']
        cases halike with
        | done hbody hrest =>
          cases h
          exact ⟨_, rfl, by rw [Ast.plain, Ast.plain, hbody], hskip.trans hrest.1⟩
        | @next level₁ level₁' outer₁ outer₁' rest₁ mid₁ hlevel₁ houter₁ hmid₁ hskip₁ =>
          have hlt : (unescape mid₁).length < fuel' := by
            have := (Beyond.of_past hskip hmid₁).2
            omega
          obtain ⟨ast', hread, hplain, hpast⟩ := ih h hlevel₁ houter₁ hskip₁
            (hsafe'.past hmid₁.1) (hclass'.past hmid₁.1) hlt
          exact ⟨ast', hread, hplain, hskip.trans (hmid₁.1.trans hpast)⟩

/-- Reading from the character after the bracket. -/
theorem readBracket_unescape {fuel fuel' : ℕ} {ast : Ast}
    (h : readBracket fuel verbose cs = some (ast, rest)) (hsafe : SpaceSafe verbose cs)
    (hclass : ClassSafe cs) (hname : ∀ q, .property q ∈ ast.mentions → '\\' ∉ q.chars)
    (hfuel : (unescape cs).length < fuel') :
    ∃ ast', readBracket fuel' verbose (unescape cs) = some (ast', unescape rest) ∧
      ast'.plain = ast.plain ∧ Past cs rest := by
  obtain ⟨heq, hpast⟩ := openLevel_unescape hsafe
  rw [readBracket] at h
  rw [readBracket, heq]
  obtain ⟨ast', hread, hplain, hrest⟩ := readLevels_unescape h rfl rfl rfl (hsafe.past hpast)
    (hclass.past hpast) hname (Nat.lt_of_le_of_lt hpast.length_unescape_le hfuel)
  exact ⟨ast', hread, hplain, hpast.trans hrest⟩

end BannerMatch.Probe
