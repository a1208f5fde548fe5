import BannerMatch.Proofs.Probe.MatchLine

/-!
# Delimiters are interchangeable

The delimiters of a match line, one around its pattern and one around the value of each field, can
be replaced by others that do not occur in what they delimit: the line is read as before, wherever
it stands in a file (`importText_textWith`).

A colon is the exception. After letters it belongs to the name of the field, so it delimits the
value of `cpe:`, but not that of `p` or another name without a colon
(`not_importText_textWith_colon`).
-/

namespace BannerMatch.Probe

open BannerMatch.Text (isBlank trim)

/-- The character can stand around the text: it is neither white space nor an ASCII letter or digit,
and does not occur in the text. -/
structure Delimits (mark : Char) (text : List Char) : Prop where
  solid : isBlank mark = false
  not_alphanum : mark.isAlphanum = false
  free : mark ∉ text

/-! ### Other delimiters -/

/-- The field as it is written with another mark around its value. -/
def Token.textWith (t : Token) (mark : Char) : List Char :=
  t.name ++ mark :: (t.value ++ mark :: t.flags)

/-- Fields as they are written with other marks. -/
def tokensTextWith (tokens : List (Gap × Token)) (marks : List Char) : List Char :=
  (tokens.zip marks).flatMap fun p => p.1.1.chars ++ p.1.2.textWith p.2

/-- The line as it is written with another delimiter around its pattern and other marks around the
values of its fields. -/
def MatchLine.textWith (l : MatchLine) (delimiter : Char) (marks : List Char) : List Char :=
  l.directive ++ (l.afterDirective.chars ++ (l.service ++ (l.afterService.chars ++
    ('m' :: delimiter :: (l.body ++ delimiter :: l.flags) ++ tokensTextWith l.tokens marks))))

/-- Letters can have any suitable mark behind them but a colon, a name with a colon can have that
too. -/
theorem NameFits.of_delimits {mark mark' : Char} {name text : List Char} (h : NameFits mark name)
    (hmark : Delimits mark' text) (hcolon : mark' = ':' → ':' ∈ name) : NameFits mark' name := by
  cases h with
  | letters ne_nil all _ _ =>
    refine .letters ne_nil all ?_ fun heq => ?_
    · have h := hmark.not_alphanum
      rw [Char.isAlphanum, Bool.or_eq_false_iff] at h
      exact h.1
    · exact absurd (all _ (hcolon heq)) (by decide)
  | colon all => exact .colon all

/-- The field with another mark around its value. -/
def Token.withMark (t : Token) {mark : Char} (hmark : Delimits mark t.value)
    (hcolon : mark = ':' → ':' ∈ t.name) : Token :=
  { t with
    mark := mark
    name_fits := t.name_fits.of_delimits hmark hcolon
    mark_solid := hmark.solid
    value_free := hmark.free }

/-- With other marks the fields are fields again, with the same names and values. -/
theorem exists_tokens_textWith {tokens : List (Gap × Token)} {marks : List Char}
    (h : List.Forall₂ (fun p mark => Delimits mark p.2.value ∧ (mark = ':' → ':' ∈ p.2.name))
      tokens marks) :
    ∃ tokens', tokensText tokens' = tokensTextWith tokens marks ∧
      (tokens'.map fun p => p.2.field) = tokens.map fun p => p.2.field := by
  induction h with
  | nil => exact ⟨[], rfl, rfl⟩
  | @cons p mark _ _ hmark _ ih =>
    obtain ⟨tokens', htext, hfields⟩ := ih
    refine ⟨(p.1, p.2.withMark hmark.1 hmark.2) :: tokens', ?_, ?_⟩
    · rw [tokensText_cons, htext, ← List.append_assoc]
      rfl
    · rw [List.map_cons, hfields]
      rfl

/-- **With other delimiters the line is a match line again**, which says the same. -/
theorem MatchLine.exists_textWith (l : MatchLine) {d : Char} {marks : List Char}
    (hd : Delimits d l.body)
    (hmarks : List.Forall₂
      (fun p mark => Delimits mark p.2.value ∧ (mark = ':' → ':' ∈ p.2.name)) l.tokens marks) :
    ∃ l' : MatchLine, l'.text = l.textWith d marks ∧ l'.entry = l.entry := by
  obtain ⟨tokens', htext, hfields⟩ := exists_tokens_textWith hmarks
  have hfits : isUnsuitable d = false := by rw [isUnsuitable, hd.solid, hd.not_alphanum]; rfl
  let l' : MatchLine :=
    { l with delimiter := d, tokens := tokens', delimiter_fits := hfits, body_free := hd.free }
  have hl'fields : l'.fields = l.fields := hfields
  refine ⟨l', ?_, ?_⟩
  · have htokens : tokensText l'.tokens = tokensTextWith l.tokens marks := htext
    rw [MatchLine.text, htokens]
    rfl
  · rw [MatchLine.entry, hl'fields]
    rfl

/-! ### In a file -/

/-- The report on a file is that on the lines after a match line, with the rule of the line in
front; of the line itself it keeps nothing. -/
theorem importFrom_matchLine (options : Options) (p : Place) (l : MatchLine)
    (lines : List (List Char)) :
    importFrom options p (l.text :: lines) =
      (importFrom options (p.after (.entry l.entry)) lines).note options p [] (.entry l.entry) := by
  rw [importFrom, Text.trim_eq_self l.flush_text l.flush_reverse_text, l.ofLine_text]
  rfl

theorem importFrom_congr_entry (options : Options) (p : Place) {l l' : MatchLine}
    (h : l'.entry = l.entry) (front back : List (List Char)) :
    importFrom options p (front ++ l'.text :: back) =
      importFrom options p (front ++ l.text :: back) := by
  induction front generalizing p with
  | nil => rw [List.nil_append, List.nil_append, importFrom_matchLine, importFrom_matchLine, h]
  | cons first front ih => simp only [List.cons_append, importFrom, ih]

/-- **Delimiters are interchangeable**: a file gives the same report if a match line of it is
written with other delimiters. Only after a name with a colon a colon can delimit a value. -/
theorem importText_textWith (options : Options) (l : MatchLine) {d : Char} {marks : List Char}
    (hd : Delimits d l.body)
    (hmarks : List.Forall₂
      (fun p mark => Delimits mark p.2.value ∧ (mark = ':' → ':' ∈ p.2.name)) l.tokens marks)
    {text text' : List Char} {i : ℕ} (hline : (Text.lines text)[i]? = some l.text)
    (hlines : Text.lines text' = (Text.lines text).set i (l.textWith d marks)) :
    importText options text' = importText options text := by
  obtain ⟨l', htext, hentry⟩ := l.exists_textWith hd hmarks
  obtain ⟨hi, hget⟩ := List.getElem?_eq_some_iff.mp hline
  obtain ⟨front, back, hls, -, hset⟩ := @List.exists_of_set _ i l'.text _ hi
  rw [importText, importText, hlines, ← htext, hset, importFrom_congr_entry options {} hentry,
    ← hget, ← hls]

theorem importText_textWith_trickyLine :
    MatchLine.trickyLine.textWith ':' ['|', '§', '/'] =
      "softmatch\t http-alt\u2003m:^HTTP m|a\\x2A:is p|First|s  cpe:§a:b§ p/The last/".toList ∧
    importText {} ("match a m|x|\n".toList ++
        MatchLine.trickyLine.textWith ':' ['|', '§', '/'] ++ "\nmatch b m|y|".toList) =
      importText {} ("match a m|x|\n".toList ++
        MatchLine.trickyLine.text ++ "\nmatch b m|y|".toList) := by
  refine ⟨by decide, ?_⟩
  have hfields : List.Forall₂ (fun (p : Gap × Token) mark =>
      Delimits mark p.2.value ∧ (mark = ':' → ':' ∈ p.2.name))
      MatchLine.trickyLine.tokens ['|', '§', '/'] :=
    .cons ⟨⟨by decide, by decide, by decide⟩, by decide⟩
      (.cons ⟨⟨by decide, by decide, by decide⟩, by decide⟩
        (.cons ⟨⟨by decide, by decide, by decide⟩, by decide⟩ .nil))
  have hd : Delimits ':' MatchLine.trickyLine.body := ⟨by decide, by decide, by decide⟩
  exact importText_textWith {} MatchLine.trickyLine hd hfields (i := 1) (by decide) (by decide)

/-- The names of the fields that are kept. -/
def fieldNames : List (List Char) := ["p", "v", "i", "h", "o", "d", "cpe:"].map String.toList

/-- The line has no flags and no fields but those that are kept, and suitable delimiters. -/
structure MatchLine.IsPlain (l : MatchLine) : Prop where
  flags_nil : l.flags = []
  delimits : Delimits l.delimiter l.body
  tokens : ∀ p ∈ l.tokens,
    p.2.flags = [] ∧ p.2.name ∈ fieldNames ∧ Delimits p.2.mark p.2.value

/-- A line with one field. -/
def shortLine : MatchLine where
  soft := false
  afterDirective := MatchLine.trickyLine.afterDirective
  service := "svc".toList
  afterService := MatchLine.trickyLine.afterDirective
  delimiter := '|'
  body := "x".toList
  flags := []
  tokens :=
    [(MatchLine.trickyLine.afterDirective,
      ⟨"v".toList, '!', "1.0".toList, [],
        .letters (by decide) (List.all_eq_true.mp (by decide)) (by decide) (by decide),
        by decide, by decide, by decide, List.forall_mem_nil _⟩)]
  service_ne_nil := by decide
  service_solid := by decide
  delimiter_fits := by decide
  body_ne_nil := by decide
  body_free := by decide
  body_oneLine := by decide
  flags_solid := List.forall_mem_nil _

/-- The exception is needed: a colon around the version is taken for a part of the name. -/
theorem not_importText_textWith_colon :
    ¬ ∀ (l : MatchLine) (d : Char) (marks : List Char), l.IsPlain → Delimits d l.body →
      List.Forall₂ (fun p mark => Delimits mark p.2.value) l.tokens marks →
      (importText {} (l.textWith d marks)).rules = (importText {} l.text).rules ∧
        (importText {} (l.textWith d marks)).warnings = (importText {} l.text).warnings := by
  intro h
  have hplain : shortLine.IsPlain := by
    refine ⟨rfl, ⟨by decide, by decide, by decide⟩, fun p hp => ?_⟩
    obtain rfl := List.mem_singleton.mp hp
    exact ⟨rfl, by decide, by decide, by decide, by decide⟩
  have hsame := h shortLine '|' [':'] hplain ⟨by decide, by decide, by decide⟩
    (.cons ⟨by decide, by decide, by decide⟩ .nil)
  exact absurd hsame.1 (by decide)

end BannerMatch.Probe
