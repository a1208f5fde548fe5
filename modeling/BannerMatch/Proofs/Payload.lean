import BannerMatch.Engine.Basic
import BannerMatch.Proofs.Base64
import Mathlib.Data.List.TakeWhile

/-!
# What a response adds to a banner

A response carries bytes if it is their encoding with ASCII white space around it (`Carries`). No
encoding has white space in it, so that the bytes are what is left of the response once it is
trimmed and decoded (`decode?_eq_some_iff`). A response that carries nothing adds nothing: it is
matched as the banner is without it (`matchResponse_payload`).
-/

namespace BannerMatch.Payload

/-- The white space of ASCII: space, tab, line feed, form feed and carriage return. -/
def asciiSpace : List UInt8 := [0x20, 0x09, 0x0A, 0x0C, 0x0D]

/-- The response is the encoding of the bytes, of which there are some, with white space around
it. -/
structure Carries (response bytes : List UInt8) : Prop where
  ne_nil : bytes ≠ []
  framed : ∃ before after, before ⊆ asciiSpace ∧ after ⊆ asciiSpace ∧
    response = before ++ (Base64.encode bytes ++ after)

/-! ### Trimming -/

theorem isAsciiBlank_iff {b : UInt8} : isAsciiBlank b = true ↔ b ∈ asciiSpace := by
  simp [isAsciiBlank, asciiSpace, or_assoc]

/-- White space in front of other bytes is dropped, and nothing more. -/
theorem dropWhile_append {before body : List UInt8} (hbefore : before ⊆ asciiSpace)
    (hbody : ∀ b ∈ body.head?, isAsciiBlank b = false) :
    (before ++ body).dropWhile isAsciiBlank = body := by
  rw [List.dropWhile_append_of_pos fun b hb => isAsciiBlank_iff.mpr (hbefore hb)]
  cases body with
  | nil => rfl
  | cons b rest => rw [List.dropWhile_cons_of_neg (by simp [hbody b rfl])]

/-- **Trimming takes white space off both ends** of bytes without white space. -/
theorem trim_append {before body after : List UInt8} (hbefore : before ⊆ asciiSpace)
    (hafter : after ⊆ asciiSpace) (hne : body ≠ [])
    (hbody : ∀ b ∈ body, isAsciiBlank b = false) : trim (before ++ (body ++ after)) = body := by
  have hstart : ∀ b ∈ (body ++ after).head?, isAsciiBlank b = false := by
    intro b hb
    rw [List.head?_append_of_ne_nil _ hne] at hb
    exact hbody b (List.mem_of_mem_head? hb)
  have hend : ∀ b ∈ body.reverse.head?, isAsciiBlank b = false := fun b hb =>
    hbody b (List.mem_reverse.mp (List.mem_of_mem_head? hb))
  rw [trim, dropWhile_append hbefore hstart, List.reverse_append,
    dropWhile_append (fun b hb => hafter (List.mem_reverse.mp hb)) hend, List.reverse_reverse]

/-- What is trimmed off is white space. -/
theorem exists_eq_append_trim (response : List UInt8) : ∃ before after, before ⊆ asciiSpace ∧
    after ⊆ asciiSpace ∧ response = before ++ (trim response ++ after) := by
  have hblank : ∀ bytes : List UInt8, bytes.takeWhile isAsciiBlank ⊆ asciiSpace :=
    fun bytes b hb => isAsciiBlank_iff.mp (List.mem_takeWhile_imp hb)
  refine ⟨response.takeWhile isAsciiBlank,
    ((response.dropWhile isAsciiBlank).reverse.takeWhile isAsciiBlank).reverse, hblank _,
    fun b hb => hblank _ (List.mem_reverse.mp hb), ?_⟩
  rw [trim, ← List.reverse_append, List.takeWhile_append_dropWhile, List.reverse_reverse,
    List.takeWhile_append_dropWhile]

/-! ### Decoding -/

theorem isAsciiBlank_of_mem_encode {bytes : List UInt8} {b : UInt8}
    (h : b ∈ Base64.encode bytes) : isAsciiBlank b = false := by
  rcases Base64.eq_digit_or_pad_of_mem_encode h with ⟨n, hn, rfl⟩ | rfl
  · revert hn
    exact (by decide : ∀ n < 64, isAsciiBlank (Base64.digit n) = false) n
  · decide

theorem Carries.trim_eq {response bytes : List UInt8} (h : Carries response bytes) :
    trim response = Base64.encode bytes := by
  obtain ⟨before, after, hbefore, hafter, rfl⟩ := h.framed
  refine trim_append hbefore hafter (fun hnil => h.ne_nil ?_) fun b => isAsciiBlank_of_mem_encode
  exact Base64.encode_injective hnil

theorem Carries.decode?_eq {response bytes : List UInt8} (h : Carries response bytes) :
    decode? response = some (Text.decode bytes) := by
  have hne : Base64.encode bytes ≠ [] := fun hnil => h.ne_nil (Base64.encode_injective hnil)
  rw [decode?, h.trim_eq]
  simp only [List.isEmpty_iff, hne, if_false, Base64.decode?_encode, Option.map_some]

/-- A response that is decoded carries what it is decoded from. -/
theorem exists_carries_of_decode? {response : List UInt8} {text : List Char}
    (h : decode? response = some text) :
    ∃ bytes, Carries response bytes ∧ text = Text.decode bytes := by
  rw [decode?] at h
  split_ifs at h with hempty
  obtain ⟨bytes, hbytes, rfl⟩ := Option.map_eq_some_iff.mp h
  rw [Base64.decode?_eq_some_iff] at hbytes
  refine ⟨bytes, ⟨?_, hbytes ▸ exists_eq_append_trim response⟩, rfl⟩
  rintro rfl
  exact hempty (by rw [hbytes]; rfl)

theorem decode?_eq_some_iff {response : List UInt8} {text : List Char} :
    decode? response = some text ↔ ∃ bytes, Carries response bytes ∧ text = Text.decode bytes :=
  ⟨exists_carries_of_decode?, fun ⟨_, h, htext⟩ => htext ▸ h.decode?_eq⟩

theorem decode?_eq_none_iff {response : List UInt8} :
    decode? response = none ↔ ∀ bytes, ¬ Carries response bytes := by
  rw [Option.eq_none_iff_forall_ne_some]
  simp only [ne_eq, decode?_eq_some_iff]
  exact ⟨fun h bytes hbytes => h _ ⟨bytes, hbytes, rfl⟩,
    fun h _ ⟨bytes, hbytes, _⟩ => h bytes hbytes⟩

/-- Without a response that can be decoded the banner itself is searched. -/
theorem searchable_of_decode?_eq_none {response : List UInt8} (h : decode? response = none)
    (banner : List Char) : searchable banner (some response) = banner := by
  rw [searchable, Option.bind_some, h]

/-- **Exactly the encodings are decoded**, and only they are searched behind the banner; a banner
with any other response is matched as it is alone, and leaves the engine as it does alone. -/
theorem matchResponse_payload (response : List UInt8) :
    (∀ text, decode? response = some text ↔
      ∃ bytes, Carries response bytes ∧ text = Text.decode bytes) ∧
    (∀ bytes, Carries response bytes → ∀ banner,
      searchable banner (some response) = banner ++ '\n' :: Text.decode bytes) ∧
    ((∀ bytes, ¬ Carries response bytes) →
      decode? response = none ∧
      (∀ banner, searchable banner (some response) = banner) ∧
      ∀ (e : Engine) (now : ℕ) (banner : String),
        e.matchResponse now banner (some response) = e.matchBanner now banner) := by
  refine ⟨fun text => decode?_eq_some_iff, fun bytes h banner => ?_, fun h => ?_⟩
  · rw [searchable, Option.bind_some, h.decode?_eq]
  · have hnone := decode?_eq_none_iff.mpr h
    refine ⟨hnone, searchable_of_decode?_eq_none hnone, fun e now banner => ?_⟩
    have htext : Engine.searchedText banner (some response) = banner := by
      rw [Engine.searchedText, searchable_of_decode?_eq_none hnone, String.ofList_toList, ite_self]
    rw [Engine.matchResponse, htext, Engine.matchBanner]

end BannerMatch.Payload
