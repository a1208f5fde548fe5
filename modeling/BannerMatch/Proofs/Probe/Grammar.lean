import BannerMatch.Probe.Import
import BannerMatch.Proofs.Text.Words

/-!
# The grammar of match lines

A match line as a structure of its parts, each with the conditions under which it can be read back.
A value of `MatchLine` is a line of the grammar, and every line of the grammar is one.

* `MatchLine.text` writes the line.
* `MatchLine.rule` is the rule that the line stands for: of the fields `p`, `v`, `i`, `h`, `o` and
  `d` the last one counts, of the fields `cpe:` the first one.
-/

namespace BannerMatch.Probe

open BannerMatch.Text (isBlank IsBlankRun IsSolid)

/-! ### Parts of a line -/

/-- White space between two parts of a line. -/
structure Gap where
  chars : List Char
  ne_nil : chars ≠ []
  blank : IsBlankRun chars
  oneLine : '\n' ∉ chars

/-- The names of fields that can stand before a mark: letters if the mark is no letter and no
colon, and letters, perhaps none, with a colon before any mark. -/
inductive NameFits (mark : Char) : List Char → Prop
  | letters {name : List Char} (ne_nil : name ≠ []) (all : ∀ c ∈ name, isLetter c = true)
      (not_letter : isLetter mark = false) (not_colon : mark ≠ ':') : NameFits mark name
  | colon {letters : List Char} (all : ∀ c ∈ letters, isLetter c = true) :
      NameFits mark (letters ++ [':'])

/-- A field of the version information with the mark around its value and the flags after it. -/
structure Token where
  name : List Char
  mark : Char
  value : List Char
  flags : List Char
  name_fits : NameFits mark name
  mark_solid : isBlank mark = false
  value_free : mark ∉ value
  value_oneLine : '\n' ∉ value
  flags_solid : IsSolid flags

/-- A match line. -/
structure MatchLine where
  /-- Whether the line is a softmatch line. -/
  soft : Bool
  afterDirective : Gap
  service : List Char
  afterService : Gap
  delimiter : Char
  body : List Char
  flags : List Char
  /-- The fields, each with the gap before it. -/
  tokens : List (Gap × Token)
  service_ne_nil : service ≠ []
  service_solid : IsSolid service
  delimiter_fits : isUnsuitable delimiter = false
  body_ne_nil : body ≠ []
  body_free : delimiter ∉ body
  body_oneLine : '\n' ∉ body
  flags_solid : IsSolid flags

/-! ### How a line is written -/

/-- A field as it is written. -/
def Token.text (t : Token) : List Char := t.name ++ t.mark :: (t.value ++ t.mark :: t.flags)

/-- Fields as they are written, each after its gap. -/
def tokensText (tokens : List (Gap × Token)) : List Char :=
  tokens.flatMap fun p => p.1.chars ++ p.2.text

/-- The field that a token stands for. -/
def Token.field (t : Token) : Field := ⟨t.name, t.value⟩

/-- The value of the last field with a name, or `start` if there is none. -/
def lastText (start name : String) (fields : List Field) : String :=
  match (fields.filter fun f => f.name = name.toList).getLast? with
  | some f => String.ofList f.value
  | none => start

/-- The CPE name `start`, or if that is empty the one that the first field `cpe:` gives. -/
def firstCpe (start : String) (fields : List Field) : String :=
  if start.isEmpty then
    match fields.find? fun f => f.name = "cpe:".toList with
    | some f => "cpe:/" ++ String.ofList f.value
    | none => start
  else start

namespace MatchLine

/-- The first word of the line. -/
def directive (l : MatchLine) : List Char := if l.soft then "softmatch".toList else "match".toList

/-- The pattern between its delimiters, with its flags. -/
def patternText (l : MatchLine) : List Char :=
  'm' :: l.delimiter :: (l.body ++ l.delimiter :: l.flags)

/-- The line as it is written. -/
def text (l : MatchLine) : List Char :=
  l.directive ++ (l.afterDirective.chars ++ (l.service ++ (l.afterService.chars ++
    (l.patternText ++ tokensText l.tokens))))

/-! ### What a line says -/

/-- The fields of the version information. -/
def fields (l : MatchLine) : List Field := l.tokens.map fun p => p.2.field

/-- The rule that the line stands for when it is the only one of its file. -/
def rule (l : MatchLine) (options : Options) : Rule where
  id := if l.soft then "nmap_soft_1" else "nmap_1"
  service := String.ofList l.service
  pattern := String.ofList (unescape l.body)
  product := lastText "" "p" l.fields
  version := lastText "" "v" l.fields
  info := lastText "" "i" l.fields
  hostname := lastText "" "h" l.fields
  os := lastText "" "o" l.fields
  deviceType := lastText "" "d" l.fields
  cpe := firstCpe "" l.fields
  confidence := if l.soft then options.softConfidence else options.hardConfidence
  description := "Nmap " ++ String.ofList l.service ++ " detection"
  author := "nmap"

end MatchLine

end BannerMatch.Probe
