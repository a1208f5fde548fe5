import BannerMatch.Text.Quoted

/-!
# Faults in probe files
-/

namespace BannerMatch.Probe

/-- What is wrong with a line of a probe file. -/
inductive Fault
  /-- A probe line lacks its transport or its name. -/
  | incompleteProbe
  /-- The transport of a probe is neither TCP nor UDP. -/
  | unknownTransport (transport : List Char)
  | missingService
  | missingPattern
  /-- The pattern does not start with `m`. -/
  | unmarkedPattern
  | missingDelimiter
  /-- The delimiter is white space, a letter or a digit. -/
  | unsuitableDelimiter (delimiter : Char)
  | unterminatedPattern (delimiter : Char)
  | emptyPattern
  /-- The version information goes on with what is no field name. -/
  | unexpectedText (rest : List Char)
  /-- A field of the version information has no value. -/
  | missingValue (name : List Char)
  /-- The value of a field is not closed. -/
  | unterminatedValue (name : List Char)
deriving DecidableEq, Repr

/-- A text between backquotes. -/
def backquoted (cs : List Char) : String := "`" ++ String.ofList cs ++ "`"

/-- The text of a fault. -/
def Fault.message : Fault → String
  | .incompleteProbe => "Probe line needs a transport and a name"
  | .unknownTransport t => "unknown probe transport " ++ backquoted t
  | .missingService => "missing service name"
  | .missingPattern => "missing pattern"
  | .unmarkedPattern => "pattern must start with `m`"
  | .missingDelimiter => "missing pattern delimiter"
  | .unsuitableDelimiter d => "invalid pattern delimiter " ++ String.ofList (Text.quoted '\'' [d])
  | .unterminatedPattern d => "unterminated pattern, missing closing " ++ backquoted [d]
  | .emptyPattern => "empty pattern"
  | .unexpectedText rest =>
      "unexpected text in version info: " ++ String.ofList (Text.quoted '"' rest)
  | .missingValue name => "field " ++ backquoted name ++ " has no value"
  | .unterminatedValue name => "unterminated " ++ backquoted name ++ " field"

end BannerMatch.Probe
