import BannerMatch.Proofs.Unescape.Escapes

/-!
# Unescaped text: groups and repetitions

The flags and names of groups and the bounds of repetitions have no escapes in them, so they are the
same after unescaping. `GroupRead` lists the forms of a group.
-/

namespace BannerMatch.Probe

open BannerMatch.Pattern
open BannerMatch.Text (isBlank IsSolid)

variable {cs rest : List Char}

/-! ### Flags and names -/

/-- There are no escapes among the letters of flags. -/
theorem readFlags_unescape {negated : Option Bool} {change change' : FlagChange} {last : Char}
    (h : readFlags negated change cs = some (change', last, rest)) :
    readFlags negated change (unescape cs) = some (change', last, unescape rest) ∧
      Past cs rest := by
  induction cs generalizing negated change with
  | nil => cases h
  | cons c cs ih =>
    have hc : c ≠ '\\' := by
      rintro rfl
      cases h
    rw [unescape_cons hc]
    rw [readFlags] at h ⊢
    split_ifs at h ⊢ with hend hneg hhyphen hsome
    · cases h
      exact ⟨rfl, .char hc (.refl _)⟩
    · obtain ⟨heq, hpast⟩ := ih h
      exact ⟨heq, .char hc hpast⟩
    · cases hflag : flag? c with
      | none => rw [hflag] at h; cases h
      | some f =>
        simp only [hflag] at h ⊢
        split_ifs at h ⊢ with hany
        obtain ⟨heq, hpast⟩ := ih h
        exact ⟨heq, .char hc hpast⟩

theorem continuesName_backslash : continuesName '\\' = false := by decide +kernel

/-- What can start a name can be anywhere in it. -/
theorem continuesName_of_startsName {c : Char} (h : startsName c = true) :
    continuesName c = true := by
  rw [startsName, Bool.or_eq_true] at h
  rcases h with h | h <;> simp [continuesName, h]

theorem backslash_not_mem_of_isGroupName {name : List Char} (h : isGroupName name = true) :
    '\\' ∉ name := by
  intro hmem
  cases name with
  | nil => cases hmem
  | cons c name =>
    rw [isGroupName, Bool.and_eq_true, List.all_eq_true] at h
    have hcontinues : continuesName '\\' = true := by
      rcases List.mem_cons.mp hmem with rfl | hmem
      · exact continuesName_of_startsName h.1
      · exact h.2 _ hmem
    rw [continuesName_backslash] at hcontinues
    cases hcontinues

theorem enterNamed_unescape {r r₁ : Reader} (h : r.enterNamed cs = some (r₁, rest)) :
    r.enterNamed (unescape cs) = some (r₁, unescape rest) ∧ Past cs rest := by
  obtain ⟨p, hp, h⟩ := Option.bind_eq_some_iff.mp h
  split_ifs at h with hname
  obtain ⟨heq, hpast⟩ := splitAtMark_unescape hp (by decide)
    (backslash_not_mem_of_isGroupName (Bool.and_eq_true_iff.mp hname).1)
  cases h
  refine ⟨?_, hpast⟩
  simp only [Reader.enterNamed, heq, Option.bind_eq_bind, Option.bind_some, hname, if_true]

/-! ### Groups -/

/-- What stands after the parenthesis of a group, past white space, and what is read of it. -/
inductive GroupRead (r : Reader) : List Char → Reader → List Char → Prop
  | capture {cs : List Char} (h : ∀ tail, cs ≠ '?' :: tail) : GroupRead r cs r.enterCapture cs
  | long {r₁ : Reader} {cs rest : List Char} (h : r.enterNamed cs = some (r₁, rest)) :
      GroupRead r ('?' :: 'P' :: '<' :: cs) r₁ rest
  | short {r₁ : Reader} {c : Char} {cs rest : List Char} (hc : c ≠ '=' ∧ c ≠ '!')
      (h : r.enterNamed (c :: cs) = some (r₁, rest)) : GroupRead r ('?' :: '<' :: c :: cs) r₁ rest
  | flags {c : Char} {cs rest : List Char} {change : FlagChange}
      (hc : c ≠ '=' ∧ c ≠ '!' ∧ c ≠ '<' ∧ c ≠ 'P')
      (h : readFlags none [] (c :: cs) = some (change, ':', rest)) :
      GroupRead r ('?' :: c :: cs)
        (r.enter (.plain change) ((change.value? .verbose).getD r.verbose)) rest
  | change {c last : Char} {cs rest : List Char} {change : FlagChange}
      (hc : c ≠ '=' ∧ c ≠ '!' ∧ c ≠ '<' ∧ c ≠ 'P')
      (h : readFlags none [] (c :: cs) = some (change, last, rest)) (hlast : last ≠ ':')
      (hne : change.isEmpty = false) :
      GroupRead r ('?' :: c :: cs)
        { r.push (.flags change) with verbose := (change.value? .verbose).getD r.verbose } rest

/-- Whether a look-around is asked for shows in three characters. -/
def asksLookaround (cs : List Char) : Bool := lookaroundSigns.any fun sign => sign.isPrefixOf cs

theorem asksLookaround_of_ne (h : ∀ tail, cs ≠ '?' :: tail) : asksLookaround cs = false := by
  cases cs with
  | nil => rfl
  | cons c cs =>
    have hc : '?' ≠ c := fun hc => h cs (hc ▸ rfl)
    simp [asksLookaround, lookaroundSigns, List.isPrefixOf, hc]

theorem asksLookaround_short {c : Char} :
    asksLookaround ('?' :: '<' :: c :: cs) = false ↔ c ≠ '=' ∧ c ≠ '!' := by
  simp [asksLookaround, lookaroundSigns, List.isPrefixOf, @eq_comm _ '=' c, @eq_comm _ '!' c]

theorem asksLookaround_flags {c : Char} (hc : c ≠ '<') :
    asksLookaround ('?' :: c :: cs) = false ↔ c ≠ '=' ∧ c ≠ '!' := by
  simp [asksLookaround, lookaroundSigns, List.isPrefixOf, hc.symm, @eq_comm _ '=' c,
    @eq_comm _ '!' c]

theorem openGroup_eq_some_iff {r r₁ : Reader} :
    r.openGroup cs = some (r₁, rest) ↔ GroupRead r (skipVerbose r.verbose cs) r₁ rest := by
  rw [Reader.openGroup]
  generalize skipVerbose r.verbose cs = ds
  show (if asksLookaround ds then none else _) = _ ↔ _
  constructor
  · intro h
    simp only at h
    split_ifs at h with hlook
    rw [Bool.not_eq_true] at hlook
    split at h
    · exact .long h
    · rename_i tail
      cases tail with
      | nil => cases h
      | cons c tail => exact .short (asksLookaround_short.mp hlook) h
    · rename_i tail hlong hshort
      cases tail with
      | nil => cases h
      | cons c tail =>
        have hless : c ≠ '<' := by
          rintro rfl
          exact hshort tail rfl
        have hc : c ≠ '=' ∧ c ≠ '!' ∧ c ≠ '<' ∧ c ≠ 'P' := by
          obtain ⟨hequal, hbang⟩ := (asksLookaround_flags hless).mp hlook
          refine ⟨hequal, hbang, hless, ?_⟩
          rintro rfl
          cases h
        split at h
        · cases h
        · rename_i change last after hflags
          split_ifs at h with hcolon hempty
          · cases h
            subst hcolon
            exact .flags hc hflags
          · cases h
            exact .change hc hflags hcolon (Bool.eq_false_iff.mpr hempty)
    · rename_i hother
      cases h
      exact .capture fun tail htail => hother tail htail
  · intro h
    cases h with
    | capture h =>
      rw [asksLookaround_of_ne h, if_neg (by decide)]
      split
      · exact absurd rfl (h _)
      · exact absurd rfl (h _)
      · exact absurd rfl (h _)
      · rfl
    | long h => exact h
    | short hc h =>
      rw [asksLookaround_short.mpr hc, if_neg (by decide)]
      exact h
    | flags hc h =>
      rw [(asksLookaround_flags hc.2.2.1).mpr ⟨hc.1, hc.2.1⟩, if_neg (by decide)]
      split
      · rename_i heq; cases heq; exact absurd rfl hc.2.2.2
      · rename_i heq; cases heq; exact absurd rfl hc.2.2.1
      · rename_i heq
        cases heq
        rw [h]
        rfl
      · rename_i hother
        exact absurd rfl (hother _)
    | change hc h hlast hne =>
      rw [(asksLookaround_flags hc.2.2.1).mpr ⟨hc.1, hc.2.1⟩, if_neg (by decide)]
      split
      · rename_i heq; cases heq; exact absurd rfl hc.2.2.2
      · rename_i heq; cases heq; exact absurd rfl hc.2.2.1
      · rename_i heq
        cases heq
        simp [h, hlast, hne]
      · rename_i hother
        exact absurd rfl (hother _)

theorem ne_backslash_of_enterNamed {r r₁ : Reader} {c : Char}
    (h : r.enterNamed (c :: cs) = some (r₁, rest)) : c ≠ '\\' := by
  rintro rfl
  obtain ⟨p, hp, h⟩ := Option.bind_eq_some_iff.mp h
  split_ifs at h with hname
  obtain ⟨q, -, rfl⟩ := Option.map_eq_some_iff.mp hp
  exact backslash_not_mem_of_isGroupName (Bool.and_eq_true_iff.mp hname).1 List.mem_cons_self

theorem ne_backslash_of_readFlags {negated : Option Bool} {change change' : FlagChange}
    {c last : Char} (h : readFlags negated change (c :: cs) = some (change', last, rest)) :
    c ≠ '\\' := by
  rintro rfl
  cases h

theorem GroupRead.unescape {r r₁ : Reader} (h : GroupRead r cs r₁ rest) :
    GroupRead r (unescape cs) r₁ (Probe.unescape rest) ∧ Past cs rest := by
  have hquestion : '?' ≠ '\\' := by decide
  have hless : '<' ≠ '\\' := by decide
  cases h with
  | capture h => exact ⟨.capture (unescape_ne_cons (by decide) hquestion h), .refl _⟩
  | long h =>
    obtain ⟨heq, hpast⟩ := enterNamed_unescape h
    rw [unescape_cons hquestion, unescape_cons (by decide), unescape_cons hless]
    exact ⟨.long heq, .char hquestion (.char (by decide) (.char hless hpast))⟩
  | short hc h =>
    obtain ⟨heq, hpast⟩ := enterNamed_unescape h
    have hname := ne_backslash_of_enterNamed h
    rw [unescape_cons hname] at heq
    rw [unescape_cons hquestion, unescape_cons hless, unescape_cons hname]
    exact ⟨.short hc heq, .char hquestion (.char hless hpast)⟩
  | flags hc h =>
    obtain ⟨heq, hpast⟩ := readFlags_unescape h
    have hflag := ne_backslash_of_readFlags h
    rw [unescape_cons hflag] at heq
    rw [unescape_cons hquestion, unescape_cons hflag]
    exact ⟨.flags hc heq, .char hquestion hpast⟩
  | change hc h hlast hne =>
    obtain ⟨heq, hpast⟩ := readFlags_unescape h
    have hflag := ne_backslash_of_readFlags h
    rw [unescape_cons hflag] at heq
    rw [unescape_cons hquestion, unescape_cons hflag]
    exact ⟨.change hc heq hlast hne, .char hquestion hpast⟩

/-- **Groups are opened alike.** -/
theorem openGroup_unescape {r r₁ : Reader} (hsafe : SpaceSafe r.verbose cs)
    (h : r.openGroup cs = some (r₁, rest)) :
    r.openGroup (unescape cs) = some (r₁, unescape rest) ∧ Past cs rest := by
  obtain ⟨hread, hpast⟩ := (openGroup_eq_some_iff.mp h).unescape
  refine ⟨?_, (past_skipVerbose hsafe).trans hpast⟩
  rw [openGroup_eq_some_iff, skipVerbose_unescape hsafe]
  exact hread

/-! ### Repetitions -/

theorem repeatSign_unescape {r r₁ : Reader} {min : ℕ} {max : Option ℕ}
    (h : r.repeatSign min max cs = some (r₁, rest)) :
    r.repeatSign min max (unescape cs) = some (r₁, unescape rest) ∧ Past cs rest := by
  rw [Reader.repeatSign.eq_def] at h ⊢
  have hquestion : '?' ≠ '\\' := by decide
  split at h
  · rename_i tail
    obtain ⟨r₂, hr₂, heq⟩ := Option.map_eq_some_iff.mp h
    cases heq
    rw [unescape_cons hquestion]
    exact ⟨by simp only [hr₂, Option.map_some], .char hquestion (.refl _)⟩
  · rename_i hother
    obtain ⟨r₂, hr₂, heq⟩ := Option.map_eq_some_iff.mp h
    cases heq
    split
    · rename_i tail htail
      exact absurd htail (unescape_ne_cons (by decide) hquestion (fun t ht => hother t ht) tail)
    · exact ⟨by simp only [hr₂, Option.map_some], .refl _⟩

theorem backslash_not_mem_of_readNumber {n : ℕ} (h : readNumber cs = some n) : '\\' ∉ cs := by
  intro hmem
  obtain ⟨ds, hds, -⟩ := Option.bind_eq_some_iff.mp h
  cases isSome_of_mem_of_mapM hds (Text.mem_trim (by decide) hmem)

theorem backslash_not_mem_of_readBounds {bounds : ℕ × Option ℕ} (h : readBounds cs = some bounds) :
    '\\' ∉ cs := by
  intro hmem
  rw [readBounds] at h
  split at h
  · obtain ⟨n, hn, -⟩ := Option.map_eq_some_iff.mp h
    exact backslash_not_mem_of_readNumber hn hmem
  · rename_i low high hsplit
    obtain ⟨n, hn, h⟩ := Option.bind_eq_some_iff.mp h
    rcases mem_of_splitAtMark hsplit hmem (by decide) with hmem | hmem
    · exact backslash_not_mem_of_readNumber hn hmem
    · rw [if_neg (by rw [List.isEmpty_iff]; rintro rfl; cases hmem)] at h
      obtain ⟨m, hm, -⟩ := Option.bind_eq_some_iff.mp h
      exact backslash_not_mem_of_readNumber hm hmem

theorem repeatBraces_unescape {r r₁ : Reader} (hsafe : SpaceSafe r.verbose cs)
    (h : r.repeatBraces cs = some (r₁, rest)) :
    r.repeatBraces (unescape cs) = some (r₁, unescape rest) ∧ Past cs rest := by
  obtain ⟨p, hp, h⟩ := Option.bind_eq_some_iff.mp h
  obtain ⟨bounds, hbounds, h⟩ := Option.bind_eq_some_iff.mp h
  obtain ⟨heq, hpast⟩ := splitBraced_unescape hsafe (fun h => absurd h (by decide)) hp
    (backslash_not_mem_of_readBounds hbounds)
  have hafter := hsafe.past hpast
  obtain ⟨hsign, hrest⟩ := repeatSign_unescape h
  refine ⟨?_, hpast.trans ((past_skipVerbose hafter).trans hrest)⟩
  simp only [Reader.repeatBraces, heq, hbounds, Option.bind_eq_bind, Option.bind_some]
  rw [skipVerbose_unescape hafter]
  exact hsign

/-- White space and comments at the start of the contents are left out of them. -/
theorem splitBraced_skipSpace (comment : Bool) (cs : List Char) :
    splitBraced true comment cs = splitBraced true false (skipSpace comment cs) := by
  induction cs generalizing comment with
  | nil => rfl
  | cons c cs ih =>
    cases comment with
    | true =>
      rw [splitBraced, if_pos rfl, skipSpace, if_pos rfl]
      exact ih _
    | false =>
      rw [skipSpace, if_neg (by decide)]
      split_ifs with hblank hsign
      · rw [splitBraced, if_neg (by decide), hblank, if_pos (by decide)]
        exact ih _
      · rw [splitBraced, if_neg (by decide), if_neg (by simp [hblank]), hsign, if_pos (by decide)]
        exact ih _
      · rfl

theorem splitBraced_skipVerbose (verbose : Bool) (cs : List Char) :
    splitBraced verbose false cs = splitBraced verbose false (skipVerbose verbose cs) := by
  cases verbose with
  | true => exact splitBraced_skipSpace false cs
  | false => rfl

/-- The bounds of a repetition do not start with a backslash. -/
theorem head?_ne_of_repeatBraces {r r₁ : Reader} (h : r.repeatBraces cs = some (r₁, rest)) :
    (skipVerbose r.verbose cs).head? ≠ some '\\' := by
  intro hhead
  obtain ⟨p, hp, h⟩ := Option.bind_eq_some_iff.mp h
  obtain ⟨bounds, hbounds, -⟩ := Option.bind_eq_some_iff.mp h
  obtain ⟨tail, htail⟩ := List.head?_eq_some_iff.mp hhead
  rw [splitBraced_skipVerbose, htail] at hp
  exact backslash_not_mem_of_readBounds hbounds (backslash_mem_of_splitBraced hp)

end BannerMatch.Probe
