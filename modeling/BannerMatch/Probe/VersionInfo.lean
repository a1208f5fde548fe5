import BannerMatch.Probe.Fault
import BannerMatch.Rule.Basic
import BannerMatch.Text.Blank
import BannerMatch.Text.Lines

/-!
# Version information

A match line ends with fields `name/value/` for the templates of its rule. A name is made of ASCII
letters, perhaps with a colon at the end; any character other than white space can take the place
of the slash. What follows a field up to the next white space is passed over.

Reading stops at the first fault; the fields before it count.
-/

namespace BannerMatch.Probe

/-- A field of the version information. -/
structure Field where
  name : List Char
  value : List Char
deriving DecidableEq, Repr

/-- Whether a character is an ASCII letter. -/
def isLetter (c : Char) : Bool := c.isAlpha

/-- The name of a field at the start of a text, and what follows it. -/
def fieldName (cs : List Char) : List Char × List Char :=
  let letters := cs.takeWhile isLetter
  match cs.dropWhile isLetter with
  | ':' :: rest => (letters ++ [':'], rest)
  | rest => (letters, rest)

/-- What follows the flags at the start of a text. -/
def afterFlags (cs : List Char) : List Char := Text.trimStart (Text.untilBlank cs).2

/-- Reads the field at the start of a text. -/
def readField (cs : List Char) : Except Fault (Field × List Char) :=
  let named := fieldName cs
  if named.1.isEmpty then .error (.unexpectedText cs)
  else match named.2 with
    | [] => .error (.missingValue named.1)
    | d :: rest =>
        if Text.isBlank d then .error (.missingValue named.1)
        else match Text.splitAtChar d rest with
          | none => .error (.unterminatedValue named.1)
          | some parts => .ok (⟨named.1, parts.1⟩, afterFlags parts.2)

/-- The fields of the version information, and the fault that ended it if there was one. -/
structure VersionInfo where
  fields : List Field := []
  fault? : Option Fault := none
deriving DecidableEq, Repr

/-- Reads at most `fuel` fields. -/
def readFields : Nat → List Char → VersionInfo
  | 0, _ => {}
  | fuel + 1, cs =>
      if cs.isEmpty then {}
      else match readField cs with
        | .error f => { fault? := some f }
        | .ok (field, rest) =>
            let others := readFields fuel rest
            { others with fields := field :: others.fields }

/-- The version information that a text holds. -/
def VersionInfo.ofText (cs : List Char) : VersionInfo :=
  let body := Text.trimStart cs
  readFields body.length body

/-- The rule with the value of a field; only the first CPE name counts, of the others the last. -/
def setField (r : Rule) (f : Field) : Rule :=
  let value := String.ofList f.value
  if f.name = ['p'] then { r with product := value }
  else if f.name = ['v'] then { r with version := value }
  else if f.name = ['i'] then { r with info := value }
  else if f.name = ['h'] then { r with hostname := value }
  else if f.name = ['o'] then { r with os := value }
  else if f.name = ['d'] then { r with deviceType := value }
  else if f.name = ['c', 'p', 'e', ':'] ∧ r.cpe.isEmpty then { r with cpe := "cpe:/" ++ value }
  else r

/-- The rule with the values of fields. -/
def setFields (r : Rule) (fields : List Field) : Rule := fields.foldl setField r

end BannerMatch.Probe
