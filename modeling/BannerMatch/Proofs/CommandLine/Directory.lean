import BannerMatch.CommandLine.Directory
import Mathlib.Tactic

/-!
# Files that are written

What is written to a path is read back from it: `file?_of_write?`. A path leads to a list of proper
names (`isName_of_locate?`), and proper names with slashes between them spell themselves
(`pathNames_ofList_intercalate`). A new file takes no folder away (`isFolder_put`), so the path
leads to the same place afterwards (`locate?_put`).
-/

namespace BannerMatch.CommandLine

/-! ### Paths -/

theorem piecesFrom_eq_splitOnPPrepend (piece cs : List Char) :
    piecesFrom piece cs = cs.splitOnPPrepend (· == '/') piece := by
  induction cs generalizing piece with
  | nil => rfl
  | cons c rest ih =>
    rw [piecesFrom, List.splitOnPPrepend_cons_eq_if, ih, ih]
    simp only [beq_iff_eq]
    rfl

/-- The pieces of a path are what stands between its slashes. -/
theorem pathPieces_eq_splitOn (path : String) : pathPieces path = path.toList.splitOn '/' := by
  rw [pathPieces, piecesFrom_eq_splitOnPPrepend, List.splitOn_eq_splitOnP]
  rfl

theorem slash_not_mem_piecesFrom {piece : List Char} (hpiece : '/' ∉ piece) (cs : List Char) :
    ∀ p ∈ piecesFrom piece cs, '/' ∉ p := by
  induction cs generalizing piece with
  | nil => simpa [piecesFrom] using hpiece
  | cons c rest ih =>
    rw [piecesFrom]
    split
    · rintro p (_ | ⟨_, hp⟩)
      · simpa using hpiece
      · exact ih List.not_mem_nil p hp
    · rename_i hc
      refine ih ?_
      rw [List.mem_cons, not_or]
      exact ⟨fun h => hc h.symm, hpiece⟩

/-- A name that a file or a folder can have. -/
structure IsName (name : List Char) : Prop where
  proper : isIdle name = false
  unbroken : '/' ∉ name

/-- **Proper names with slashes between them** spell themselves. -/
theorem pathNames_ofList_intercalate {names : List (List Char)} (hnames : ∀ n ∈ names, IsName n) :
    pathNames (String.ofList (['/'].intercalate names)) = names := by
  rw [pathNames, pathPieces_eq_splitOn, String.toList_ofList]
  cases names with
  | nil => rfl
  | cons n rest =>
    rw [List.splitOn_intercalate '/' (fun p hp => (hnames p hp).unbroken) (List.cons_ne_nil _ _),
      List.filter_eq_self]
    intro p hp
    simp [(hnames p hp).proper]

namespace Directory

variable {d : Directory} {path : String} {names : List (List Char)} {contents : List UInt8}

/-! ### The place of a path -/

/-- A piece stays in the folder, leads back, or leads into a folder of its name. -/
theorem enter_eq_some_iff {folder next : List (List Char)} {piece : List Char} :
    d.enter folder piece = some next ↔
      (isIdle piece = true ∧ next = folder) ∨
      (piece = ['.', '.'] ∧ folder ≠ [] ∧ next = folder.dropLast) ∨
      (isIdle piece = false ∧ piece ≠ ['.', '.'] ∧ d.isFolder next = true ∧
        next = folder ++ [piece]) := by
  have hback : isIdle ['.', '.'] = false := by decide
  rw [enter]
  split
  · grind
  · split
    · split
      · grind
      · grind
    · split
      · grind
      · grind

/-- Folders that are entered have proper names. -/
theorem isName_of_enter {folder next : List (List Char)} {piece : List Char}
    (hfolder : ∀ n ∈ folder, IsName n) (hpiece : '/' ∉ piece)
    (h : d.enter folder piece = some next) : ∀ n ∈ next, IsName n := by
  rcases enter_eq_some_iff.mp h with ⟨-, rfl⟩ | ⟨-, -, rfl⟩ | ⟨hproper, -, -, rfl⟩
  · exact hfolder
  · exact fun n hn => hfolder n (List.mem_of_mem_dropLast hn)
  · intro n hn
    rcases List.mem_append.mp hn with hn | hn
    · exact hfolder n hn
    · rw [List.mem_singleton.mp hn]
      exact ⟨hproper, hpiece⟩

theorem isName_of_foldlM_enter {pieces folder next : List (List Char)}
    (hfolder : ∀ n ∈ folder, IsName n) (hpieces : ∀ p ∈ pieces, '/' ∉ p)
    (h : pieces.foldlM d.enter folder = some next) : ∀ n ∈ next, IsName n := by
  induction pieces generalizing folder with
  | nil =>
    cases h
    exact hfolder
  | cons p rest ih =>
    rw [List.foldlM_cons, Option.bind_eq_bind, Option.bind_eq_some_iff] at h
    obtain ⟨entered, hentered, hrest⟩ := h
    obtain ⟨hp, hmore⟩ := List.forall_mem_cons.mp hpieces
    exact ih (isName_of_enter hfolder hp hentered) hmore hrest

/-- A path that leads somewhere leads through folders to a last name. -/
theorem locate?_eq_some_iff :
    d.locate? path = some names ↔
      (isAbsolute path = false ∧ isIdle ((pathPieces path).getLast?.getD []) = false ∧
        (pathPieces path).getLast?.getD [] ≠ ['.', '.']) ∧
      (Text.byteLength ((pathPieces path).getLast?.getD []) ≤ maxNameBytes ∧
        Text.byteLength path.toList ≤ maxPathBytes) ∧
      ∃ folder, (pathPieces path).dropLast.foldlM d.enter [] = some folder ∧
        names = folder ++ [(pathPieces path).getLast?.getD []] := by
  simp only [locate?]
  split
  · rename_i hnowhere
    simp only [Bool.or_eq_true, beq_iff_eq] at hnowhere
    grind
  · rename_i hsomewhere
    simp only [Bool.or_eq_true, beq_iff_eq, not_or, Bool.not_eq_true] at hsomewhere
    split
    · rename_i hlong
      grind
    · rename_i hshort
      rw [Option.map_eq_some_iff]
      grind

/-- **A path leads to a list of proper names.** -/
theorem isName_of_locate? (h : d.locate? path = some names) : ∀ n ∈ names, IsName n := by
  obtain ⟨⟨-, hproper, -⟩, -, folder, hfolder, rfl⟩ := locate?_eq_some_iff.mp h
  have hpieces : ∀ p ∈ pathPieces path, '/' ∉ p :=
    slash_not_mem_piecesFrom List.not_mem_nil path.toList
  intro n hn
  rcases List.mem_append.mp hn with hn | hn
  · exact isName_of_foldlM_enter (fun _ hn => absurd hn List.not_mem_nil)
      (fun p hp => hpieces p (List.mem_of_mem_dropLast hp)) hfolder n hn
  · rw [List.mem_singleton.mp hn]
    refine ⟨hproper, ?_⟩
    cases hlast : (pathPieces path).getLast? with
    | none => simp
    | some last => exact hpieces last (List.mem_of_getLast? hlast)

/-! ### A new file -/

/-- A new file takes no folder away: the file that it replaces had the same names. -/
theorem isFolder_put (hnames : ∀ n ∈ names, IsName n) {folder : List (List Char)}
    (h : d.isFolder folder = true) : (d.put names contents).isFolder folder = true := by
  rw [isFolder, List.any_eq_true] at h ⊢
  obtain ⟨f, hf, hinside⟩ := h
  by_cases hsame : pathNames f.1 = names
  · refine ⟨_, List.mem_cons_self, ?_⟩
    rwa [pathNames_ofList_intercalate hnames, ← hsame]
  · exact ⟨f, List.mem_cons_of_mem _ (List.mem_filter.mpr ⟨hf, by simpa using hsame⟩), hinside⟩

theorem enter_put (hnames : ∀ n ∈ names, IsName n) {folder next : List (List Char)}
    {piece : List Char} (h : d.enter folder piece = some next) :
    (d.put names contents).enter folder piece = some next := by
  rw [enter_eq_some_iff] at h ⊢
  rcases h with hidle | hback | ⟨hproper, hpiece, hfolder, hnext⟩
  · exact .inl hidle
  · exact .inr (.inl hback)
  · exact .inr (.inr ⟨hproper, hpiece, isFolder_put hnames hfolder, hnext⟩)

theorem foldlM_enter_put (hnames : ∀ n ∈ names, IsName n) {pieces folder next : List (List Char)}
    (h : pieces.foldlM d.enter folder = some next) :
    pieces.foldlM (d.put names contents).enter folder = some next := by
  induction pieces generalizing folder with
  | nil => exact h
  | cons p rest ih =>
    rw [List.foldlM_cons, Option.bind_eq_bind, Option.bind_eq_some_iff] at h ⊢
    obtain ⟨entered, hentered, hrest⟩ := h
    exact ⟨entered, enter_put hnames hentered, ih hrest⟩

/-- **A path leads to the same place** when a file is put there. -/
theorem locate?_put (h : d.locate? path = some names) :
    (d.put names contents).locate? path = some names := by
  have hnames := isName_of_locate? h
  rw [locate?_eq_some_iff] at h ⊢
  obtain ⟨hproper, hshort, folder, hfolder, heq⟩ := h
  exact ⟨hproper, hshort, folder, foldlM_enter_put hnames hfolder, heq⟩

theorem contents?_put (hnames : ∀ n ∈ names, IsName n) :
    (d.put names contents).contents? names = some contents := by
  have hfirst := pathNames_ofList_intercalate hnames
  rw [contents?, put, List.find?_cons_of_pos (by simpa using hfirst)]
  rfl

/-! ### Writing and reading -/

/-- The contents of the file that a path leads to in the directory. -/
def file? (d : Directory) (path : String) : Option (List UInt8) :=
  (d.locate? path).bind d.contents?

/-- Something can be written to the path. -/
def HasPlace (d : Directory) (path : String) : Prop := (d.write? path []).isSome = true

instance (d : Directory) (path : String) : Decidable (d.HasPlace path) :=
  inferInstanceAs (Decidable (_ = true))

theorem write?_eq_some_iff {after : Directory} :
    d.write? path contents = some after ↔
      (isNullDevice path = true ∧ after = d) ∨
      (isNullDevice path = false ∧ ∃ names, d.locate? path = some names ∧
        d.isFolder names = false ∧ after = d.put names contents) := by
  rw [write?]
  split
  · grind
  · cases hlocate : d.locate? path with
    | none => grind
    | some names => grind

theorem ne_empty_of_file? (h : d.file? path = some contents) : path ≠ "" := by
  rintro rfl
  cases h

theorem ne_empty_of_hasPlace (h : d.HasPlace path) : path ≠ "" := by
  rintro rfl
  cases h

/-- Whether a path can be written to does not depend on what is written. -/
theorem exists_write?_of_hasPlace (h : d.HasPlace path) (contents : List UInt8) :
    ∃ after, d.write? path contents = some after := by
  obtain ⟨empty, hempty⟩ := Option.isSome_iff_exists.mp h
  rcases write?_eq_some_iff.mp hempty with ⟨hdevice, -⟩ | ⟨hfile, names, hnames, hfree, -⟩
  · exact ⟨d, write?_eq_some_iff.mpr (.inl ⟨hdevice, rfl⟩)⟩
  · exact ⟨_, write?_eq_some_iff.mpr (.inr ⟨hfile, names, hnames, hfree, rfl⟩)⟩

/-- A file is read where there is one; the null device is none. -/
theorem read?_of_file? (h : d.file? path = some contents) : d.read? path = some contents := by
  obtain ⟨names, hnames, hcontents⟩ := Option.bind_eq_some_iff.mp h
  obtain ⟨⟨habsolute, -⟩, -⟩ := locate?_eq_some_iff.mp hnames
  have hfile : isNullDevice path = false := by
    rw [isNullDevice, habsolute, Bool.false_and, Bool.false_and]
  rw [read?, hfile, if_neg Bool.false_ne_true]
  exact h

/-- **What is written is a file from then on**, unless it goes to the null device. -/
theorem file?_of_write? {after : Directory} (hfile : isNullDevice path = false)
    (h : d.write? path contents = some after) : after.file? path = some contents := by
  rcases write?_eq_some_iff.mp h with ⟨hdevice, -⟩ | ⟨-, names, hnames, -, rfl⟩
  · rw [hfile] at hdevice
    cases hdevice
  · rw [file?, locate?_put hnames]
    exact contents?_put (isName_of_locate? hnames)

end Directory
end BannerMatch.CommandLine
