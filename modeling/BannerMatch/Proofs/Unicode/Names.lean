import BannerMatch.Pattern.Flags
import Mathlib.Tactic

/-!
# Names of properties

Names are compared loosely, but a backslash counts, and no property has one in its name
(`backslash_not_mem_propertyNames`). So there is no property, and no value of one, under a name with
a backslash: `property?_eq_none` and `propertyValue?_eq_none`.
-/

namespace BannerMatch.Unicode

/-- The names in a table. -/
def tableNames {α : Type} (table : List (List String × α)) : List String :=
  (table.map Prod.fst).flatten

/-- The names of the properties and of their values, table by table. -/
def propertyNames : List (List String) :=
  [tableNames derivedProperties, tableNames listedProperties, tableNames categoryGroups,
    tableNames generalCategories, tableNames scripts, tableNames ages, tableNames graphemeBreaks,
    tableNames wordBreaks, tableNames sentenceBreaks]

/-- A text in the form that the kernel gives to a literal. -/
theorem backslash_not_mem_ofList {cs : List Char} (h : cs.contains '\\' = false) :
    '\\' ∉ (String.ofList cs).toList := by
  simpa using h

set_option maxRecDepth 20000 in
theorem backslash_not_mem_propertyNames :
    ∀ names ∈ propertyNames, ∀ n ∈ names, '\\' ∉ n.toList := by
  simp only [propertyNames, tableNames, derivedProperties, listedProperties, categoryGroups,
    generalCategories, scripts, ages, graphemeBreaks, wordBreaks, sentenceBreaks, List.map_cons,
    List.map_nil, List.flatten_cons, List.flatten_nil, List.cons_append, List.nil_append,
    List.append_nil, List.forall_mem_cons]
  repeat' apply And.intro
  -- a literal is `String.ofList` of its characters to the kernel; decoding it would take long
  all_goals first | exact backslash_not_mem_ofList rfl | exact List.forall_mem_nil _

/-! ### Loose names -/

theorem lowerAscii_eq_backslash_iff (c : Char) : Text.lowerAscii c = '\\' ↔ c = '\\' := by
  rw [Text.lowerAscii]
  split_ifs with h
  · have hupper : c ≠ '\\' := by
      rintro rfl
      exact absurd h (by decide)
    -- the letters move up to codes above that of the backslash
    have hlow : 65 ≤ c.toNat := h.1
    have hhigh : c.toNat ≤ 90 := h.2
    refine iff_of_false (fun heq => ?_) hupper
    have hletter : ∀ n < 26, Char.ofNat (65 + n + 32) ≠ '\\' := by decide
    refine hletter (c.toNat - 65) (by omega) ?_
    rwa [Nat.add_sub_cancel' hlow]
  · exact Iff.rfl

theorem backslash_mem_looseChars {cs : List Char} (h : '\\' ∈ cs) : '\\' ∈ looseChars cs := by
  rw [looseChars, List.mem_map]
  exact ⟨'\\', List.mem_filter.mpr ⟨h, by decide⟩, by decide⟩

theorem backslash_mem_of_looseChars {cs : List Char} (h : '\\' ∈ looseChars cs) : '\\' ∈ cs := by
  obtain ⟨c, hc, hlower⟩ := List.mem_map.mp h
  rw [lowerAscii_eq_backslash_iff] at hlower
  exact hlower ▸ (List.mem_filter.mp hc).1

theorem backslash_mem_looseName {name : List Char} (h : '\\' ∈ name) : '\\' ∈ looseName name := by
  rw [looseName.eq_def]
  split
  · rename_i a b rest
    split_ifs with his
    · -- neither of the dropped letters is the backslash
      have ha : '\\' ≠ a := by rintro rfl; exact absurd his.1 (by decide)
      have hb : '\\' ≠ b := by rintro rfl; exact absurd his.2 (by decide)
      have hrest : '\\' ∈ looseChars rest :=
        backslash_mem_looseChars (List.mem_of_ne_of_mem hb (List.mem_of_ne_of_mem ha h))
      dsimp only
      split_ifs with hshort
      · rw [hshort] at hrest
        exact absurd hrest (by decide)
      · exact hrest
    · exact backslash_mem_looseChars h
  · exact backslash_mem_looseChars h

/-! ### Queries -/

section Keys

variable {key : List Char} (hkey : '\\' ∈ key)
include hkey

theorem named_eq_false (names : List String) (h : ∀ n ∈ names, '\\' ∉ n.toList) :
    named key names = false := by
  rw [named, List.any_eq_false]
  intro n hn heq
  rw [beq_iff_eq] at heq
  exact h n hn (backslash_mem_of_looseChars (heq ▸ hkey))

theorem findNamed_eq_none {α : Type} (table : List (List String × α))
    (h : tableNames table ∈ propertyNames) : findNamed table key = none := by
  rw [findNamed, List.find?_eq_none]
  intro entry hentry
  rw [Bool.not_eq_true]
  refine named_eq_false hkey _ fun n hn => backslash_not_mem_propertyNames _ h n ?_
  exact List.mem_flatten.mpr ⟨entry.1, List.mem_map_of_mem hentry, hn⟩

theorem valueSet?_eq_none (table : List (List String × List String))
    (h : tableNames table ∈ propertyNames) : valueSet? table key = none := by
  rw [valueSet?, findNamed_eq_none hkey table h]
  rfl

theorem binary?_eq_none : binary? key = none := by
  rw [binary?, findNamed_eq_none hkey _ (by simp [propertyNames])]
  exact valueSet?_eq_none hkey _ (by simp [propertyNames])

theorem category?_eq_none : category? key = none := by
  rw [category?, if_neg (by rintro rfl; exact absurd hkey (by decide)),
    if_neg (by rintro rfl; exact absurd hkey (by decide)),
    if_neg (by rintro rfl; exact absurd hkey (by decide)),
    findNamed_eq_none hkey _ (by simp [propertyNames])]
  exact valueSet?_eq_none hkey _ (by simp [propertyNames])

theorem script?_eq_none : script? key = none :=
  valueSet?_eq_none hkey _ (by simp [propertyNames])

theorem scriptExtension?_eq_none : scriptExtension? key = none := by
  rw [scriptExtension?, findNamed_eq_none hkey _ (by simp [propertyNames])]
  rfl

theorem age?_eq_none : age? key = none := by
  rw [age?, if_neg]
  intro hany
  obtain ⟨entry, hentry, hnamed⟩ := List.any_eq_true.mp hany
  have hnone := findNamed_eq_none hkey ages (by simp [propertyNames])
  exact List.find?_eq_none.mp hnone entry hentry hnamed

theorem graphemeBreak?_eq_none : graphemeBreak? key = none := by
  rw [graphemeBreak?, if_neg (by rintro rfl; exact absurd hkey (by decide)),
    if_neg (by rintro rfl; exact absurd hkey (by decide))]
  exact valueSet?_eq_none hkey _ (by simp [propertyNames])

end Keys

/-- A lone name with a backslash names no property. -/
theorem property?_eq_none {name : List Char} (h : '\\' ∈ name) : property? name = none := by
  have hkey := backslash_mem_looseName h
  simp only [property?, binary?_eq_none hkey, category?_eq_none hkey]
  exact script?_eq_none hkey

/-- Neither does a name with a value if there is a backslash in one of them. -/
theorem propertyValue?_eq_none {name value : List Char} (h : '\\' ∈ name ∨ '\\' ∈ value) :
    propertyValue? name value = none := by
  rcases h with h | h
  · have hprop := backslash_mem_looseName h
    simp only [propertyValue?, named_eq_false hprop ["gc", "General_Category"] (by decide),
      named_eq_false hprop ["sc", "Script"] (by decide),
      named_eq_false hprop ["scx", "Script_Extensions"] (by decide),
      named_eq_false hprop ["Age"] (by decide),
      named_eq_false hprop ["GCB", "Grapheme_Cluster_Break"] (by decide),
      named_eq_false hprop ["WB", "Word_Break"] (by decide),
      named_eq_false hprop ["SB", "Sentence_Break"] (by decide)]
    rfl
  · have hkey := backslash_mem_looseName h
    simp only [propertyValue?, category?_eq_none hkey, script?_eq_none hkey,
      scriptExtension?_eq_none hkey, age?_eq_none hkey, graphemeBreak?_eq_none hkey,
      valueSet?_eq_none hkey wordBreaks (by simp [propertyNames]),
      valueSet?_eq_none hkey sentenceBreaks (by simp [propertyNames]), ite_self]

end BannerMatch.Unicode
