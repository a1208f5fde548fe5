import BannerMatch.Proofs.Pattern.Texts
import BannerMatch.Proofs.Unescape.Patterns

/-!
# Escaped texts

A sequence of the escapes that `unescape` replaces is a pattern for the text that it spells
(`compile_unescape_escapes`): whatever characters the escapes stand for, none of them acts as a
sign, alone or with its neighbours.

* Unescaping such a sequence writes a pattern for each character (`unescape_flatMap_chars`).
* The reader takes these one by one, each as a literal (`readAst_literalPatterns`), and the literals
  are joined to one text (`exprWith_literalItems`).
* What the machine of a text finds is in `Machine.IsText.finds_search`.
-/

namespace BannerMatch

open Pattern

namespace Pattern

/-! ### Literals in a row -/

/-- The item of a character, in plain form. -/
def literalItem (c : Char) : Ast := .literal (Literal.plain { char := c, byteForm := true })

/-- A set of one character is a text. -/
theorem ofSet_single (c : Char) : Expr.ofSet (.single c.toNat) = .literal [c] := by
  have hvalid : ¬ (c.toNat < 0xE000 ∧ 0xD7FF < c.toNat) := by
    have hc : c.toNat < 0xD800 ∨ 0xDFFF < c.toNat ∧ c.toNat < 0x110000 := c.valid
    omega
  have hranges : (CodeSet.single c.toNat).characters.ranges = [(c.toNat, c.toNat)] := by
    simp only [CodeSet.characters, CodeSet.single, CodeSet.range, CodeSet.characterRanges,
      List.flatMap_cons, List.flatMap_nil, if_neg hvalid, List.append_nil]
  rw [Expr.ofSet, hranges]
  simp only [if_true, Char.ofNat_toNat]

theorem exprWith_literalItem (c : Char) :
    (literalItem c).exprWith {} = some (.literal [c], {}) := by
  have hliteral : Flags.literal? {} (Literal.plain { char := c, byteForm := true }) =
      some (.ofSet (.single c.toNat)) := rfl
  rw [literalItem, Ast.exprWith, hliteral, ofSet_single]
  rfl

theorem exprsWith_literalItems (cs : List Char) :
    Ast.exprsWith {} (cs.map literalItem) = some (cs.map fun c => .literal [c], {}) := by
  induction cs with
  | nil => rfl
  | cons c cs ih =>
    rw [List.map_cons, Ast.exprsWith, exprWith_literalItem]
    simp only [ih]
    rfl

theorem foldr_pushItem_literals (c : Char) (cs : List Char) :
    ((c :: cs).map fun c => Expr.literal [c]).foldr Expr.pushItem [] = [.literal (c :: cs)] := by
  induction cs generalizing c with
  | nil => rfl
  | cons d cs ih =>
    rw [List.map_cons, List.foldr_cons, ih]
    rfl

/-- Texts of one character in a row are joined. -/
theorem sequence_literals (cs : List Char) :
    Expr.sequence (cs.map fun c => .literal [c]) = .ofText cs := by
  have hitems : (cs.map fun c => Expr.literal [c]).flatMap Expr.items =
      cs.map fun c => .literal [c] := by
    rw [List.flatMap_map]
    exact List.flatMap_pure_eq_map _ _
  rw [Expr.sequence, hitems]
  cases cs with
  | nil => rfl
  | cons c cs =>
    rw [foldr_pushItem_literals]
    rfl

/-- **Literals in a row mean their text.** -/
theorem exprWith_literalItems (cs : List Char) :
    (Ast.ofItems (cs.map literalItem)).exprWith {} = some (.ofText cs, {}) := by
  match cs with
  | [] => rfl
  | [c] => exact exprWith_literalItem c
  | c :: d :: cs =>
    show (Ast.concat ((c :: d :: cs).map literalItem)).exprWith {} = _
    rw [Ast.exprWith, exprsWith_literalItems, Option.map_some, sequence_literals]

theorem depthAll_literalItems (cs : List Char) : Ast.depthAll (cs.map literalItem) = 0 := by
  induction cs with
  | nil => rfl
  | cons c cs ih =>
    rw [List.map_cons, Ast.depthAll, ih]
    rfl

theorem depth_literalItems_le (cs : List Char) :
    (Ast.ofItems (cs.map literalItem)).depth ≤ Ast.maxDepth := by
  match cs with
  | [] => exact Nat.zero_le _
  | [c] => exact Nat.zero_le _
  | c :: d :: cs =>
    show Ast.depthAll ((c :: d :: cs).map literalItem) + 1 ≤ Ast.maxDepth
    rw [depthAll_literalItems]
    decide

end Pattern

namespace Probe

/-! ### Patterns for characters in a row -/

/-- Patterns for the characters of a text, one after the other. -/
def literalPatterns (cs : List Char) : List Char := cs.flatMap fun c => literalPattern c.toNat

theorem literalPatterns_cons (c : Char) (cs : List Char) :
    literalPatterns (c :: cs) = literalPattern c.toNat ++ literalPatterns cs :=
  List.flatMap_cons

/-- An item that is written at the start is taken in one step. -/
theorem Written.readAst {r : Reader} {cs rest : List Char} {p : Primitive}
    (h : Written r.verbose cs p rest) (hskip : skipVerbose r.verbose cs = cs) (fuel : ℕ) :
    readAst (fuel + 1) r cs = readAst fuel (r.push p.item) rest := by
  cases cs with
  | nil => cases h
  | cons c tail =>
    rw [Pattern.readAst, hskip]
    simp only [h.readerStep fuel]

/-- **The reader takes patterns for characters one by one**, each as a literal. -/
theorem readAst_literalPatterns {cs : List Char} (hcs : ∀ c ∈ cs, c.toNat < 256) {r : Reader}
    (hverbose : r.verbose = false) (hbranches : r.branches = []) (hframes : r.frames = [])
    {fuel : ℕ} (hfuel : cs.length < fuel) :
    ∃ ast, readAst fuel r (literalPatterns cs) = some ast ∧
      ast.plain = Ast.ofItems ((r.items.map Ast.plain).reverse ++ cs.map literalItem) := by
  obtain ⟨fuel, rfl⟩ : ∃ k, fuel = k + 1 := ⟨fuel - 1, by omega⟩
  induction cs generalizing r fuel with
  | nil =>
    refine ⟨r.body, ?_, ?_⟩
    · rw [readAst, hverbose, hframes]
      rfl
    · rw [r.plain_body, Reader.body, Reader.plain, hbranches, List.map_nil, List.map_nil,
        List.append_nil]
      rfl
  | cons c cs ih =>
    obtain ⟨hc, hcs⟩ := List.forall_mem_cons.mp hcs
    obtain ⟨fuel, rfl⟩ : ∃ k, fuel = k + 1 := ⟨fuel - 1, by rw [List.length_cons] at hfuel; omega⟩
    obtain ⟨p, rest, hwritten, hplain, hrest⟩ :=
      @written_literalPattern false c.toNat hc (literalPatterns cs)
    obtain rfl : rest = literalPatterns cs := hrest.elim id id
    have hitem : p.item.plain = literalItem c := by
      rw [Primitive.plain_item, hplain, Char.ofNat_toNat]
      rfl
    rw [← hverbose, ← literalPatterns_cons] at hwritten
    obtain ⟨ast, hread, hast⟩ := ih hcs (r := r.push p.item) hverbose hbranches hframes fuel
      (Nat.lt_of_succ_lt_succ hfuel)
    refine ⟨ast, (hwritten.readAst (by rw [hverbose]; rfl) _).trans hread, ?_⟩
    rw [hast, Reader.push, List.map_cons, List.reverse_cons, hitem, List.map_cons,
      List.append_assoc]
    rfl

/-- The machine of patterns for characters is that of their text. -/
theorem machine?_literalPatterns {cs : List Char} (hcs : ∀ c ∈ cs, c.toNat < 256) :
    Pattern.machine? (literalPatterns cs) =
      if Text.byteLength cs ≤ maxTextBytes then .ok (.ofExpr (.ofText cs)) else .error .tooBig := by
  have hlength : cs.length ≤ (literalPatterns cs).length := by
    rw [literalPatterns, List.length_flatMap]
    refine (List.length_map _).symm.trans_le (List.length_le_sum_of_one_le _ fun k hk => ?_)
    obtain ⟨c, -, rfl⟩ := List.mem_map.mp hk
    exact List.length_pos_iff.mpr (literalPattern_ne_nil c.toNat)
  obtain ⟨ast, hread, hast⟩ := readAst_literalPatterns hcs (r := {}) rfl rfl rfl
    (Nat.lt_succ_of_le hlength)
  have hast : ast.plain = Ast.ofItems (cs.map literalItem) := hast
  have hdepth : ast.depth ≤ Ast.maxDepth := by
    rw [← ast.depth_plain, hast]
    exact depth_literalItems_le cs
  have hexpr : ast.expr? = some (.ofText cs) := by
    rw [Ast.expr?, ← Ast.exprWith_plain, hast, exprWith_literalItems]
    rfl
  rw [Pattern.machine?, Ast.read?, hread]
  simp only [if_pos hdepth, hexpr, fits_ofText_iff]

/-! ### Escapes -/

/-- A hexadecimal digit as it is written, in lower or in upper case. -/
structure HexDigit where
  value : Fin 16
  upper : Bool
deriving DecidableEq, Repr

/-- The character of the digit. -/
def HexDigit.char (d : HexDigit) : Char :=
  if d.upper then (Nat.digitChar d.value).toUpper else Nat.digitChar d.value

/-- An escape that stands for one character. -/
inductive Escape
  | byte (high low : HexDigit)
  | backslash
  | carriageReturn
  | lineFeed
  | tab
  | null
deriving DecidableEq, Repr

/-- How the escape is written. -/
def Escape.chars : Escape → List Char
  | .byte high low => ['\\', 'x', high.char, low.char]
  | .backslash => ['\\', '\\']
  | .carriageReturn => ['\\', 'r']
  | .lineFeed => ['\\', 'n']
  | .tab => ['\\', 't']
  | .null => ['\\', '0']

/-- The character that the escape stands for. -/
def Escape.char : Escape → Char
  | .byte high low => Char.ofNat (16 * high.value + low.value)
  | .backslash => '\\'
  | .carriageReturn => '\r'
  | .lineFeed => '\n'
  | .tab => '\t'
  | .null => '\x00'

theorem hexDigit?_char (d : HexDigit) : hexDigit? d.char = some d.value.val := by
  obtain ⟨value, upper⟩ := d
  revert value upper
  decide

theorem Escape.toNat_char_byte (high low : HexDigit) :
    (Escape.byte high low).char.toNat = 16 * high.value + low.value := by
  have hvalid : Nat.isValidChar (16 * high.value + low.value) := .inl (by omega)
  exact congrArg Char.toNat (dif_pos hvalid)

theorem Escape.toNat_char_lt (e : Escape) : e.char.toNat < 256 := by
  cases e with
  | byte high low =>
    rw [Escape.toNat_char_byte]
    omega
  | _ => decide

theorem Escape.escaped?_chars (e : Escape) (rest : List Char) :
    ∃ tail, e.chars ++ rest = '\\' :: tail ∧ escaped? tail = some (e.char.toNat, rest) := by
  cases e with
  | byte high low =>
    refine ⟨'x' :: high.char :: low.char :: rest, rfl, ?_⟩
    simp only [escaped?, hexPair?, hexDigit?_char, Option.map_some, Escape.toNat_char_byte]
  | _ => exact ⟨_, rfl, rfl⟩

/-- Unescaping writes a pattern for each character that the escapes stand for. -/
theorem unescape_flatMap_chars (es : List Escape) :
    unescape (es.flatMap Escape.chars) = literalPatterns (es.map Escape.char) := by
  induction es with
  | nil => rfl
  | cons e es ih =>
    obtain ⟨tail, heq, hescaped⟩ := e.escaped?_chars (es.flatMap Escape.chars)
    rw [List.flatMap_cons, heq, unescape_escape hescaped, ih, List.map_cons, literalPatterns_cons]

/-- Signs are written with a backslash, characters above ASCII by their codes. -/
example : unescape "\\x2E\\x41\\\\\\n\\xe9".toList = "\\.A\\\\\n\\xE9".toList := by decide

/-! ### What is found -/

/-- The pattern finds the text and nothing else: it has no group but the whole match, it matches
where the text occurs, and the match is the first occurrence. -/
structure FindsText (p : Pattern) (text : List Char) : Prop where
  groupCount : p.groupCount = 1
  isMatch_iff (u : String) : p.isMatch u = true ↔ text <:+: u.toList
  first {u : String} {m : PatternMatch} (h : p.find? u = some m) :
    ∃ start, FirstAt text u.toList start ∧ m.found.groups = [m.span? 0] ∧
      m.span? 0 = some ⟨start, start + text.length⟩ ∧ m.group? 0 = some text

theorem findsText_of_isText {source : String} {m : Machine} {text : List Char}
    (hm : m.IsText text) : FindsText ⟨source, m⟩ text where
  groupCount := hm.groupCount
  isMatch_iff u := by
    rw [Pattern.isMatch, Pattern.find?, Option.isSome_map]
    exact (hm.finds_search u.toList).isSome_iff
  first {u found} h := by
    obtain ⟨found, hfound, rfl⟩ := Option.map_eq_some_iff.mp h
    obtain ⟨start, hfirst, rfl⟩ := (hfound ▸ hm.finds_search u.toList).exists_first
    exact ⟨start, hfirst, rfl, rfl, congrArg some hfirst.slice_eq⟩

/-- **Escapes find exactly the text that they spell.** A sequence of escapes is never malformed: it
is a pattern that finds the characters it stands for one after the other and nothing else, unless
that text does not fit into the memory of a pattern. -/
theorem compile_unescape_escapes (es : List Escape) :
    match Pattern.compile (String.ofList (unescape (es.flatMap Escape.chars))) with
    | .ok p => FindsText p (es.map Escape.char) ∧
        Text.byteLength (es.map Escape.char) ≤ maxTextBytes
    | .error fault => fault = .tooBig ∧ maxTextBytes < Text.byteLength (es.map Escape.char) := by
  have hbytes : ∀ c ∈ es.map Escape.char, c.toNat < 256 := by
    intro c hc
    obtain ⟨e, -, rfl⟩ := List.mem_map.mp hc
    exact e.toNat_char_lt
  rw [Pattern.compile, String.toList_ofList, unescape_flatMap_chars,
    machine?_literalPatterns hbytes]
  split_ifs with hfits
  · exact ⟨findsText_of_isText (Machine.isText_ofText _), hfits⟩
  · exact ⟨rfl, Nat.lt_of_not_le hfits⟩

end Probe

end BannerMatch
