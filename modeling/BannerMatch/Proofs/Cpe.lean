import BannerMatch.Cpe
import BannerMatch.Proofs.Text.Words
import Mathlib.Tactic

/-!
# The form of synthesized names

Colons separate the five fields of a synthesized name, so none may come from the product or from the
version. Whatever these hold, `normalize` leaves only characters that `Fits` describes, and changes
nothing if there are no others (`normalize_eq_self`). So a name has its five fields, and is
synthesized again from the last two of them: `synthesize_form`.
-/

namespace BannerMatch.Cpe

open Text (isBlank trim lowerAscii)

/-- A character that may stand in a part of a name. -/
structure Fits (c : Char) : Prop where
  ne_colon : c ≠ ':'
  not_blank : isBlank c = false
  not_upper : ¬ ('A' ≤ c ∧ c ≤ 'Z')

/-- A part of a name: it is not empty, and has neither colons nor white space nor upper-case letters
of ASCII. -/
structure IsPart (cs : List Char) : Prop where
  ne_nil : cs ≠ []
  fits : ∀ c ∈ cs, Fits c

/-! ### Characters -/

theorem lowerAscii_of_not_upper {c : Char} (h : ¬ ('A' ≤ c ∧ c ≤ 'Z')) : lowerAscii c = c :=
  if_neg h

/-- The small letters fit. -/
theorem fits_lowerAscii_of_upper {c : Char} (h : 'A' ≤ c ∧ c ≤ 'Z') : Fits (lowerAscii c) := by
  have hlow : 65 ≤ c.toNat := h.1
  have hhigh : c.toNat ≤ 90 := h.2
  have hall : ∀ k < 26, let d := Char.ofNat (65 + k + 32)
      d ≠ ':' ∧ isBlank d = false ∧ ¬ ('A' ≤ d ∧ d ≤ 'Z') := by
    decide +kernel
  obtain ⟨hcolon, hblank, hupper⟩ := hall (c.toNat - 65) (by omega)
  rw [show 65 + (c.toNat - 65) + 32 = c.toNat + 32 by omega] at hcolon hblank hupper
  rw [lowerAscii, if_pos h]
  exact ⟨hcolon, hblank, hupper⟩

/-- What becomes of a character other than a colon. -/
theorem fits_of_ne_colon {c : Char} (hc : c ≠ ':') :
    Fits (if isBlank c then '_' else lowerAscii c) := by
  by_cases hblank : isBlank c = true
  · rw [if_pos hblank]
    exact ⟨by decide, by decide +kernel, by decide⟩
  · rw [if_neg hblank]
    by_cases hupper : 'A' ≤ c ∧ c ≤ 'Z'
    · exact fits_lowerAscii_of_upper hupper
    · rw [lowerAscii_of_not_upper hupper]
      exact ⟨hc, by simpa using hblank, hupper⟩

/-! ### Parts -/

theorem fits_of_mem_normalize {cs : List Char} {c : Char} (hc : c ∈ normalize cs) : Fits c := by
  unfold normalize at hc
  obtain ⟨d, hd, rfl⟩ := List.mem_map.mp hc
  exact fits_of_ne_colon (by simpa using (List.mem_filter.mp hd).2)

theorem normalize_eq_nil_iff (cs : List Char) : normalize cs = [] ↔ ∀ c ∈ trim cs, c = ':' := by
  simp [normalize]

/-- **Nothing is changed where every character fits.** -/
theorem normalize_eq_self {cs : List Char} (h : ∀ c ∈ cs, Fits c) : normalize cs = cs := by
  have htrim : trim cs = cs := by
    apply Text.trim_eq_self
    · intro c hc
      exact (h c (List.mem_of_mem_head? hc)).not_blank
    · intro c hc
      exact (h c (List.mem_reverse.mp (List.mem_of_mem_head? hc))).not_blank
  have hfilter : cs.filter (fun c => c != ':') = cs := by
    rw [List.filter_eq_self]
    intro c hc
    simpa using (h c hc).ne_colon
  have hmap : cs.map (fun c => if isBlank c then '_' else lowerAscii c) = cs.map id := by
    apply List.map_congr_left
    intro c hc
    rw [(h c hc).not_blank, if_neg Bool.false_ne_true]
    exact lowerAscii_of_not_upper (h c hc).not_upper
  rw [normalize, htrim, hfilter, hmap, List.map_id]

/-- The version as it stands in a name. -/
def versionPart (version : List Char) : List Char :=
  if (normalize version).isEmpty then ['*'] else normalize version

theorem isPart_normalize {cs : List Char} (hne : normalize cs ≠ []) : IsPart (normalize cs) :=
  ⟨hne, fun _ => fits_of_mem_normalize⟩

theorem isPart_versionPart (version : List Char) : IsPart (versionPart version) := by
  unfold versionPart
  split
  · refine ⟨by simp, fun c hc => ?_⟩
    rw [List.mem_singleton.mp hc]
    exact ⟨by decide, by decide +kernel, by decide⟩
  · rename_i hne
    exact isPart_normalize (by simpa using hne)

theorem IsPart.versionPart {cs : List Char} (h : IsPart cs) : versionPart cs = cs := by
  unfold Cpe.versionPart
  rw [normalize_eq_self h.fits, if_neg (by simpa using h.ne_nil)]

/-! ### Names -/

/-- The fields of the name of a product and a version. -/
def fields (product version : List Char) : List (List Char) :=
  ["cpe".toList, "/a".toList, "*".toList, product, version]

theorem synthesize_eq_nil_iff (product version : List Char) :
    synthesize product version = [] ↔ normalize product = [] := by
  simp only [synthesize, List.isEmpty_iff]
  split
  · simp_all
  · simp_all

/-- A name has its fields between colons. -/
theorem synthesize_of_ne_nil {product : List Char} (hne : normalize product ≠ [])
    (version : List Char) :
    synthesize product version = [':'].intercalate (fields (normalize product)
      (versionPart version)) := by
  have hempty : (normalize product).isEmpty = false := List.isEmpty_eq_false_iff.mpr hne
  simp only [synthesize, hempty, Bool.false_eq_true, if_false]
  simp [fields, versionPart, List.intercalate]

/-- Parts have no colons, so the fields are found again. -/
theorem splitOn_intercalate_fields {p v : List Char} (hp : IsPart p) (hv : IsPart v) :
    ([':'].intercalate (fields p v)).splitOn ':' = fields p v := by
  have hcolon : ∀ {cs : List Char}, IsPart cs → ':' ∉ cs :=
    fun h hmem => (h.fits _ hmem).ne_colon rfl
  have hfields : ∀ field ∈ fields p v, ':' ∉ field := by
    simp only [fields, List.forall_mem_cons]
    exact ⟨by decide, by decide, by decide, hcolon hp, hcolon hv, by simp⟩
  exact List.splitOn_intercalate ':' hfields (List.cons_ne_nil _ _)

theorem IsPart.synthesize {p v : List Char} (hp : IsPart p) (hv : IsPart v) :
    synthesize p v = [':'].intercalate (fields p v) := by
  have hself : normalize p = p := normalize_eq_self hp.fits
  rw [synthesize_of_ne_nil (by rw [hself]; exact hp.ne_nil), hself, hv.versionPart]

/-- **Synthesized names are well formed and stable.** There is no name exactly if the trimmed
product has no other characters than colons. Every other name has five fields between its colons,
`cpe`, `/a`, `*`, a product and a version, and these two are parts from which the same name is
synthesized. -/
theorem synthesize_form (product version : List Char) :
    (synthesize product version = [] ↔ ∀ c ∈ trim product, c = ':') ∧
      (synthesize product version = [] ∨
        ∃ p v, (synthesize product version).splitOn ':' =
            ["cpe".toList, "/a".toList, "*".toList, p, v] ∧
          IsPart p ∧ IsPart v ∧ synthesize p v = synthesize product version) := by
  constructor
  · rw [synthesize_eq_nil_iff, normalize_eq_nil_iff]
  · by_cases hne : normalize product = []
    · exact .inl ((synthesize_eq_nil_iff product version).mpr hne)
    · have hp := isPart_normalize hne
      have hv := isPart_versionPart version
      have hname := synthesize_of_ne_nil hne version
      refine .inr ⟨normalize product, versionPart version, ?_, hp, hv, ?_⟩
      · rw [hname]
        exact splitOn_intercalate_fields hp hv
      · rw [hname]
        exact hp.synthesize hv

/-- Colons, a no-break space, an ideographic space and capital letters in what was captured. -/
example :
    String.ofList (synthesize "\u00a0:My\u3000Server:".toList "\t: V1:2 ".toList) =
      "cpe:/a:*:my_server:_v12" := by
  decide +kernel

end BannerMatch.Cpe
