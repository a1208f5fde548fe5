import BannerMatch.Proofs.Probe.Grammar
import BannerMatch.Proofs.Probe.Source

/-!
# Reading match lines

A line of the grammar is read as the rule that it stands for, and nothing is said against it.

The version information is read field by field: `readField_text` takes one field off the text with
the gap after it, and `readFields_tokensText` follows the list of fields. `setFields_eq` says what a
list of fields makes of a rule.
-/

namespace BannerMatch.Probe

open BannerMatch.Text (isBlank IsBlankRun IsSolid Spaced Flush)

/-! ### Characters -/

theorem isBlank_of_isLetter {c : Char} (hc : isLetter c = true) : isBlank c = false := by
  have h : 0x41 ≤ c.toNat ∧ c.toNat ≤ 0x7A := by
    rcases Bool.or_eq_true_iff.mp hc with hupper | hlower
    · obtain ⟨hlow, hhigh⟩ : c.val ≥ 'A'.val ∧ c.val ≤ 'Z'.val := of_decide_eq_true hupper
      have hhigh := UInt32.le_iff_toNat_le.mp hhigh
      exact ⟨UInt32.le_iff_toNat_le.mp hlow, Nat.le_trans hhigh (by decide)⟩
    · obtain ⟨hlow, hhigh⟩ := Bool.and_eq_true_iff.mp hlower
      have hlow := UInt32.le_iff_toNat_le.mp (of_decide_eq_true hlow)
      have hhigh := UInt32.le_iff_toNat_le.mp (of_decide_eq_true hhigh)
      exact ⟨Nat.le_trans (by decide) hlow, hhigh⟩
  exact Text.isBlank_of_visible (by omega) (by omega)

theorem solid_of_letters {cs : List Char} (h : ∀ c ∈ cs, isLetter c = true) : IsSolid cs :=
  fun c hc => isBlank_of_isLetter (h c hc)

/-! ### Fields -/

/-- A name in front of a mark that it fits is read up to the mark. -/
theorem fieldName_append {name : List Char} {mark : Char} (h : NameFits mark name)
    (rest : List Char) : fieldName (name ++ mark :: rest) = (name, mark :: rest) := by
  cases h with
  | letters ne_nil all not_letter not_colon =>
    rw [fieldName, List.takeWhile_append_of_pos all, List.dropWhile_append_of_pos all]
    simp [not_letter, not_colon]
  | @colon letters all =>
    -- the letters end at the colon, whatever the mark after it is
    have hcolon : isLetter ':' = false := by decide
    rw [fieldName, List.append_assoc, List.takeWhile_append_of_pos all,
      List.dropWhile_append_of_pos all]
    simp [hcolon]

theorem NameFits.ne_nil {mark : Char} {name : List Char} (h : NameFits mark name) : name ≠ [] := by
  cases h with
  | letters ne_nil _ _ _ => exact ne_nil
  | colon _ => simp

theorem NameFits.solid {mark : Char} {name : List Char} (h : NameFits mark name) :
    IsSolid name := by
  cases h with
  | letters _ all _ _ => exact solid_of_letters all
  | colon all => exact IsSolid.append (solid_of_letters all) (by simp [IsSolid]; decide)

theorem Token.flush_text (t : Token) (cs : List Char) : Flush (t.text ++ cs) := by
  rw [Token.text, List.append_assoc]
  exact Flush.append t.name_fits.ne_nil t.name_fits.solid

/-- A text that ends with a mark and flags has no white space at its end. -/
theorem flush_reverse_of_flags {mark : Char} {flags : List Char} (hmark : isBlank mark = false)
    (hflags : IsSolid flags) (cs : List Char) : Flush (cs ++ mark :: flags).reverse := by
  have hsolid : IsSolid (flags.reverse ++ [mark]) := by
    refine IsSolid.append (fun c hc => hflags c (List.mem_reverse.mp hc)) ?_
    simpa [IsSolid] using hmark
  have h : Flush (flags.reverse ++ [mark] ++ cs.reverse) := Flush.append (by simp) hsolid
  simpa using h

theorem tokensText_nil : tokensText [] = [] := rfl

theorem tokensText_cons (p : Gap × Token) (tokens : List (Gap × Token)) :
    tokensText (p :: tokens) = p.1.chars ++ (p.2.text ++ tokensText tokens) := by
  simp [tokensText]

/-- What follows a part of the line is empty or starts with a gap. -/
theorem spaced_tokensText (tokens : List (Gap × Token)) : Spaced (tokensText tokens) := by
  cases tokens with
  | nil => exact Text.spaced_nil
  | cons p rest =>
    rw [tokensText_cons]
    exact Spaced.append p.1.ne_nil p.1.blank

/-- Fields without the gap before the first one. -/
def tokensBody (tokens : List (Gap × Token)) : List Char := Text.trimStart (tokensText tokens)

theorem tokensBody_cons (p : Gap × Token) (tokens : List (Gap × Token)) :
    tokensBody (p :: tokens) = p.2.text ++ tokensText tokens := by
  rw [tokensBody, tokensText_cons, Text.trimStart_append p.1.blank (p.2.flush_text _)]

theorem flush_tokensBody (tokens : List (Gap × Token)) : Flush (tokensBody tokens) := by
  cases tokens with
  | nil => exact Text.flush_nil
  | cons p rest =>
    rw [tokensBody_cons]
    exact p.2.flush_text _

/-- Flags are passed over together with the gap after them. -/
theorem afterFlags_append {flags : List Char} (hflags : IsSolid flags)
    (tokens : List (Gap × Token)) :
    afterFlags (flags ++ tokensText tokens) = tokensBody tokens := by
  rw [afterFlags, Text.untilBlank_append hflags (spaced_tokensText tokens), tokensBody]

/-- **One field** is read off a text. -/
theorem readField_text (t : Token) (tokens : List (Gap × Token)) :
    readField (t.text ++ tokensText tokens) = .ok (t.field, tokensBody tokens) := by
  have htext : t.text ++ tokensText tokens =
      t.name ++ t.mark :: (t.value ++ t.mark :: (t.flags ++ tokensText tokens)) := by
    simp [Token.text]
  rw [readField, htext, fieldName_append t.name_fits]
  simp only [List.isEmpty_iff, t.name_fits.ne_nil, if_false, t.mark_solid, Bool.false_eq_true]
  rw [Text.splitAtChar_append t.value_free]
  simp only [afterFlags_append t.flags_solid]
  rfl

/-- **All fields** are read, without a fault. -/
theorem readFields_tokensBody (tokens : List (Gap × Token)) (fuel : Nat)
    (hfuel : tokens.length ≤ fuel) :
    readFields fuel (tokensBody tokens) = { fields := tokens.map fun p => p.2.field } := by
  induction tokens generalizing fuel with
  | nil => cases fuel <;> rfl
  | cons p rest ih =>
    obtain ⟨fuel, rfl⟩ : ∃ n, fuel = n + 1 := ⟨fuel - 1, by simp at hfuel; omega⟩
    -- the gap before the next field goes with this one, so the rest is again a list of fields
    have hne : (p.2.text ++ tokensText rest).isEmpty = false := by simp [Token.text]
    rw [tokensBody_cons, readFields, hne, readField_text, if_neg Bool.false_ne_true]
    simp only [ih fuel (by simpa using hfuel)]
    rfl

/-! ### Fields and the rule -/

theorem lastText_nil (start name : String) : lastText start name [] = start := rfl

theorem lastText_cons (start name : String) (f : Field) (fields : List Field) :
    lastText start name (f :: fields) =
      lastText (if f.name = name.toList then String.ofList f.value else start) name fields := by
  unfold lastText
  by_cases h : f.name = name.toList
  · rw [List.filter_cons_of_pos (by simpa using h), List.getLast?_cons, if_pos h]
    cases (fields.filter fun g => g.name = name.toList).getLast? <;> rfl
  · rw [List.filter_cons_of_neg (by simpa using h), if_neg h]

theorem firstCpe_cons (start : String) (f : Field) (fields : List Field) :
    firstCpe start (f :: fields) =
      firstCpe (if f.name = "cpe:".toList ∧ start.isEmpty then "cpe:/" ++ String.ofList f.value
        else start) fields := by
  unfold firstCpe
  by_cases hstart : start.isEmpty
  · by_cases h : f.name = "cpe:".toList
    · simp [h, hstart]
    · have hboth : ¬ (f.name = "cpe:".toList ∧ start.isEmpty = true) := fun hb => h hb.1
      rw [if_neg hboth, List.find?_cons_of_neg (by simpa using h)]
  · simp [hstart]

/-- One field changes the one text of a rule that it names. -/
theorem setField_eq (r : Rule) (f : Field) :
    setField r f =
      { r with
        product := if f.name = "p".toList then String.ofList f.value else r.product
        version := if f.name = "v".toList then String.ofList f.value else r.version
        info := if f.name = "i".toList then String.ofList f.value else r.info
        hostname := if f.name = "h".toList then String.ofList f.value else r.hostname
        os := if f.name = "o".toList then String.ofList f.value else r.os
        deviceType := if f.name = "d".toList then String.ofList f.value else r.deviceType
        cpe := if f.name = "cpe:".toList ∧ r.cpe.isEmpty then "cpe:/" ++ String.ofList f.value
          else r.cpe } := by
  -- the names differ, so at most one of the seven texts is set
  by_cases hp : f.name = ['p']
  · simp [setField, hp]
  by_cases hv : f.name = ['v']
  · simp [setField, hv]
  by_cases hi : f.name = ['i']
  · simp [setField, hi]
  by_cases hh : f.name = ['h']
  · simp [setField, hh]
  by_cases ho : f.name = ['o']
  · simp [setField, ho]
  by_cases hd : f.name = ['d']
  · simp [setField, hd]
  by_cases hcpe : f.name = ['c', 'p', 'e', ':'] ∧ r.cpe = ""
  · simp [setField, hcpe]
  · simp [setField, hp, hv, hi, hh, ho, hd, hcpe]

/-- **What a list of fields makes of a rule**: the last field of a name counts, but the first one
for the CPE name. -/
theorem setFields_eq (r : Rule) (fields : List Field) :
    setFields r fields =
      { r with
        product := lastText r.product "p" fields
        version := lastText r.version "v" fields
        info := lastText r.info "i" fields
        hostname := lastText r.hostname "h" fields
        os := lastText r.os "o" fields
        deviceType := lastText r.deviceType "d" fields
        cpe := firstCpe r.cpe fields } := by
  induction fields generalizing r with
  | nil => simp [setFields, lastText_nil, firstCpe]
  | cons f fields ih =>
    have hcons : setFields r (f :: fields) = setFields (setField r f) fields := rfl
    rw [hcons, ih, setField_eq]
    simp only [lastText_cons, firstCpe_cons]

/-! ### The line -/

namespace MatchLine

variable (l : MatchLine)

theorem directive_solid : IsSolid l.directive := by
  unfold directive
  cases l.soft
  · exact solid_of_letters (List.all_eq_true.mp (by decide))
  · exact solid_of_letters (List.all_eq_true.mp (by decide))

theorem directive_ne_nil : l.directive ≠ [] := by
  unfold directive
  cases l.soft <;> decide

theorem delimiter_solid : isBlank l.delimiter = false := by
  have h := l.delimiter_fits
  rw [isUnsuitable, Bool.or_eq_false_iff] at h
  exact h.1

theorem flush_patternText (cs : List Char) : Flush (l.patternText ++ cs) :=
  Text.flush_cons (by decide) _

/-- The pattern is split off, and the gap after it. -/
theorem splitPattern_text :
    splitPattern (l.patternText ++ tokensText l.tokens) = .ok (l.body, tokensBody l.tokens) := by
  have htext : l.patternText ++ tokensText l.tokens =
      'm' :: l.delimiter :: (l.body ++ l.delimiter :: (l.flags ++ tokensText l.tokens)) := by
    simp [patternText]
  rw [htext, splitPattern, if_neg (by simp [l.delimiter_fits]),
    Text.splitAtChar_append l.body_free]
  simp only [List.isEmpty_iff, l.body_ne_nil, if_false, afterFlags_append l.flags_solid]

/-- What the line says. -/
def entry : Entry := ⟨l.soft, l.service, l.body, { fields := l.fields }⟩

theorem length_tokens_le (tokens : List (Gap × Token)) :
    tokens.length ≤ (tokensBody tokens).length := by
  cases tokens with
  | nil => simp
  | cons p rest =>
    have hrest : ∀ ts : List (Gap × Token), ts.length ≤ (tokensText ts).length := by
      intro ts
      induction ts with
      | nil => simp
      | cons q ts ih =>
        rw [tokensText_cons]
        simp only [List.length_cons, List.length_append, Token.text]
        omega
    have h := hrest rest
    rw [tokensBody_cons]
    simp only [List.length_cons, List.length_append, Token.text]
    omega

/-- **The line is read as its parts.** -/
theorem readEntry_text (l : MatchLine) :
    readEntry l.soft (l.service ++ (l.afterService.chars ++
      (l.patternText ++ tokensText l.tokens))) = .ok l.entry := by
  have hne : l.patternText ++ tokensText l.tokens ≠ [] := by simp [patternText]
  rw [readEntry, Text.splitWord_append l.service_ne_nil l.service_solid l.afterService.ne_nil
    l.afterService.blank (l.flush_patternText _)]
  simp only [List.isEmpty_iff, l.service_ne_nil, hne, if_false, splitPattern_text]
  rw [VersionInfo.ofText, Text.trimStart_of_flush (flush_tokensBody _)]
  simp only [readFields_tokensBody _ _ (length_tokens_le _)]
  rfl

/-- **The line is an entry**, whatever stands before it in its file. -/
theorem ofLine_text (l : MatchLine) : Outcome.ofLine l.text = .entry l.entry := by
  have hrest : Flush (l.service ++ (l.afterService.chars ++
      (l.patternText ++ tokensText l.tokens))) := Flush.append l.service_ne_nil l.service_solid
  have hstart : ¬ (l.text.isEmpty = true ∨ l.text.head? = some '#') := by
    rw [text, directive]
    cases l.soft <;> simp
  rw [Outcome.ofLine, if_neg hstart, text, Text.splitWord_append l.directive_ne_nil
    l.directive_solid l.afterDirective.ne_nil l.afterDirective.blank hrest]
  -- what comes of the line depends on its first word alone
  have h := l.readEntry_text
  unfold directive
  cases hsoft : l.soft
  · rw [hsoft] at h
    simp [h, Outcome.ofEntry]
  · rw [hsoft] at h
    simp [h, Outcome.ofEntry]

/-! ### The file of one line -/

theorem flush_text : Flush l.text := Flush.append l.directive_ne_nil l.directive_solid

/-- White space at the end of a text with fields can only stand before the fields. -/
theorem flush_reverse_tokens {cs : List Char} (hcs : Flush cs.reverse)
    (tokens : List (Gap × Token)) : Flush (cs ++ tokensText tokens).reverse := by
  induction tokens generalizing cs with
  | nil => simpa [tokensText_nil] using hcs
  | cons p rest ih =>
    have htoken : Flush (cs ++ (p.1.chars ++ p.2.text)).reverse := by
      have h := flush_reverse_of_flags p.2.mark_solid p.2.flags_solid
        (cs ++ (p.1.chars ++ (p.2.name ++ p.2.mark :: p.2.value)))
      simpa [Token.text] using h
    have h := ih htoken
    simpa [tokensText_cons] using h

theorem flush_reverse_text : Flush l.text.reverse := by
  have hpattern := flush_reverse_of_flags l.delimiter_solid l.flags_solid
    (l.directive ++ (l.afterDirective.chars ++ (l.service ++ (l.afterService.chars ++
      'm' :: l.delimiter :: l.body))))
  have h := flush_reverse_tokens hpattern l.tokens
  simpa [text, patternText] using h

/-- A line feed is white space. -/
theorem ne_lineFeed {c : Char} (hc : isBlank c = false) : '\n' ≠ c := by
  rintro rfl
  exact absurd hc (by decide)

theorem oneLine_of_solid {cs : List Char} (hcs : IsSolid cs) : '\n' ∉ cs :=
  fun hmem => ne_lineFeed (hcs _ hmem) rfl

theorem oneLine_tokensText (tokens : List (Gap × Token)) : '\n' ∉ tokensText tokens := by
  induction tokens with
  | nil => simp [tokensText_nil]
  | cons p rest ih =>
    have hname := oneLine_of_solid p.2.name_fits.solid
    have hflags := oneLine_of_solid p.2.flags_solid
    simp [tokensText_cons, Token.text, p.1.oneLine, p.2.value_oneLine, hname, hflags, ih,
      ne_lineFeed p.2.mark_solid]

theorem oneLine_text : '\n' ∉ l.text := by
  have hdirective := oneLine_of_solid l.directive_solid
  have hservice := oneLine_of_solid l.service_solid
  have hflags := oneLine_of_solid l.flags_solid
  simp [text, patternText, l.afterDirective.oneLine, l.afterService.oneLine, l.body_oneLine,
    oneLine_tokensText, hdirective, hservice, hflags, ne_lineFeed l.delimiter_solid]

theorem text_ne_nil : l.text ≠ [] := by
  simp [text, l.directive_ne_nil]

/-- The rule of the entry, with all its fields. -/
theorem rule_entry (options : Options) : l.entry.rule options 1 none = l.rule options := by
  have hid : l.entry.ruleId 1 = if l.soft then "nmap_soft_1" else "nmap_1" := by
    unfold Entry.ruleId entry
    cases l.soft
    · show "nmap_" ++ toString 1 = "nmap_1"
      decide
    · show "nmap_soft_" ++ toString 1 = "nmap_soft_1"
      decide
  rw [Entry.rule, setFields_eq, hid]
  simp only [rule, entry, Entry.description, String.append_empty]
  rfl

/-- The report on a line of the file. -/
theorem importFrom_text (l : MatchLine) (options : Options) :
    importFrom options {} [l.text] = { rules := [l.rule options], linesRead := 1 } := by
  simp only [importFrom, Text.trim_eq_self l.flush_text l.flush_reverse_text, l.ofLine_text]
  simp only [Report.note, ← rule_entry]
  rfl

/-- **A file of one match line** gives the rule of the line and no remark, both when it is read as a
text and when it is read from its bytes. -/
theorem import_text (l : MatchLine) (options : Options) :
    importText options l.text = { rules := [l.rule options], linesRead := 1 } ∧
    importSource options { bytes := Text.encode l.text } =
      .ok { rules := [l.rule options], linesRead := 1 } := by
  constructor
  · rw [importText, Text.lines_eq_singleton l.text_ne_nil l.oneLine_text, importFrom_text]
  · rw [importSource_of_readable, Text.byteLines_encode l.text_ne_nil l.oneLine_text,
      List.map_singleton, Text.decode_encode, importFrom_text]

/-- A softmatch line with a delimiter outside ASCII, white space in its pattern, flags after a
value, a field given twice, and a letter around the value of its CPE name. -/
def trickyLine : MatchLine where
  soft := true
  afterDirective := ⟨"\t ".toList, by decide, by decide, by decide⟩
  service := "http-alt".toList
  afterService := ⟨"\u2003".toList, by decide, by decide, by decide⟩
  delimiter := '§'
  body := "^HTTP m|a\\x2A".toList
  flags := "is".toList
  tokens :=
    [(⟨" ".toList, by decide, by decide, by decide⟩,
      ⟨"p".toList, '/', "First".toList, "s".toList,
        .letters (by decide) (List.all_eq_true.mp (by decide)) (by decide) (by decide),
        by decide, by decide, by decide, by decide⟩),
     (⟨"  ".toList, by decide, by decide, by decide⟩,
      ⟨"cpe".toList ++ [':'], 'x', "a:b".toList, [], .colon (List.all_eq_true.mp (by decide)),
        by decide, by decide, by decide, by decide⟩),
     (⟨" ".toList, by decide, by decide, by decide⟩,
      ⟨"p".toList, '|', "The last".toList, [],
        .letters (by decide) (List.all_eq_true.mp (by decide)) (by decide) (by decide),
        by decide, by decide, by decide, by decide⟩)]
  service_ne_nil := by decide
  service_solid := by decide
  delimiter_fits := by decide
  body_ne_nil := by decide
  body_free := by decide
  body_oneLine := by decide
  flags_solid := by decide

theorem import_text_trickyLine :
    trickyLine.text =
      "softmatch\t http-alt\u2003m§^HTTP m|a\\x2A§is p/First/s  cpe:xa:bx p|The last|".toList ∧
    importText {} trickyLine.text =
      { rules := [{ id := "nmap_soft_1", service := "http-alt", pattern := "^HTTP m|a\\*",
                    product := "The last", cpe := "cpe:/a:b", confidence := 65,
                    description := "Nmap http-alt detection", author := "nmap" }]
        linesRead := 1 } :=
  ⟨by decide, (import_text trickyLine {}).1.trans (by decide)⟩

end MatchLine

end BannerMatch.Probe
