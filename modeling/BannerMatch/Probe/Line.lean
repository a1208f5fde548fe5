import BannerMatch.Probe.Unescape
import BannerMatch.Probe.Options
import BannerMatch.Probe.VersionInfo

/-!
# Lines of probe files

A line starts with a word that says what it is.

* `Probe transport name …` names the probe that the lines after it belong to.
* `match service m|pattern|flags fields` describes a rule, and `softmatch` in the same way a rule
  that is less sure. Any character that is not white space and no ASCII letter or digit can take
  the place of the bar. Flags are passed over.
* Lines that start with another word are ignored; blank lines and those that start with `#` say
  nothing.

`Outcome.ofLine` depends on the line alone, not on the lines around it.
-/

namespace BannerMatch.Probe

/-- What a match line says. -/
structure Entry where
  /-- Whether the line is a softmatch line. -/
  soft : Bool
  service : List Char
  /-- The pattern as it is written, with its escapes. -/
  body : List Char
  info : VersionInfo
deriving DecidableEq, Repr

/-- What a line is. -/
inductive Outcome
  /-- The line says nothing. -/
  | blank
  /-- The line starts with a word that means nothing here. -/
  | ignored
  | probe (name : List Char)
  | entry (e : Entry)
  | faulty (fault : Fault)
deriving DecidableEq, Repr

/-- Whether a character cannot delimit a pattern. -/
def isUnsuitable (c : Char) : Bool := Text.isBlank c || c.isAlphanum

/-- Splits a text into a pattern between delimiters and what follows its flags. -/
def splitPattern : List Char → Except Fault (List Char × List Char)
  | 'm' :: [] => .error .missingDelimiter
  | 'm' :: d :: rest =>
      if isUnsuitable d then .error (.unsuitableDelimiter d)
      else match Text.splitAtChar d rest with
        | none => .error (.unterminatedPattern d)
        | some parts =>
            if parts.1.isEmpty then .error .emptyPattern
            else .ok (parts.1, afterFlags parts.2)
  | _ => .error .unmarkedPattern

/-- Reads a match line after its first word. -/
def readEntry (soft : Bool) (cs : List Char) : Except Fault Entry :=
  let parts := Text.splitWord cs
  if parts.1.isEmpty then .error .missingService
  else if parts.2.isEmpty then .error .missingPattern
  else match splitPattern parts.2 with
    | .error f => .error f
    | .ok (body, info) => .ok ⟨soft, parts.1, body, .ofText info⟩

/-- Reads a probe line after its first word; gives the name of the probe. -/
def readProbe (cs : List Char) : Except Fault (List Char) :=
  match Text.words cs with
  | transport :: name :: _ =>
      if transport = ['T', 'C', 'P'] ∨ transport = ['U', 'D', 'P'] then .ok name
      else .error (.unknownTransport transport)
  | _ => .error .incompleteProbe

/-- The outcome of reading a match line. -/
def Outcome.ofEntry : Except Fault Entry → Outcome
  | .ok e => .entry e
  | .error f => .faulty f

/-- The outcome of reading a probe line. -/
def Outcome.ofProbe : Except Fault (List Char) → Outcome
  | .ok name => .probe name
  | .error f => .faulty f

/-- What a line is that has no white space at its ends. -/
def Outcome.ofLine (line : List Char) : Outcome :=
  if line.isEmpty ∨ line.head? = some '#' then .blank
  else
    let parts := Text.splitWord line
    if parts.1 = "Probe".toList then .ofProbe (readProbe parts.2)
    else if parts.1 = "match".toList then .ofEntry (readEntry false parts.2)
    else if parts.1 = "softmatch".toList then .ofEntry (readEntry true parts.2)
    else .ignored

/-- The identifier of the `n`-th rule of a file. -/
def Entry.ruleId (e : Entry) (n : Nat) : String :=
  (if e.soft then "nmap_soft_" else "nmap_") ++ toString n

/-- What is said about a rule in its description; `probe` is the probe that it belongs to. -/
def Entry.description (e : Entry) (probe : Option (List Char)) : String :=
  "Nmap " ++ String.ofList e.service ++ " detection" ++
    match probe with
    | some name => " (probe " ++ String.ofList name ++ ")"
    | none => ""

/-- The rule that a match line describes, the `n`-th of its file. -/
def Entry.rule (e : Entry) (options : Options) (n : Nat) (probe : Option (List Char)) : Rule :=
  setFields
    { id := e.ruleId n
      service := String.ofList e.service
      pattern := String.ofList (unescape e.body)
      confidence := if e.soft then options.softConfidence else options.hardConfidence
      description := e.description probe
      author := "nmap" }
    e.info.fields

end BannerMatch.Probe
