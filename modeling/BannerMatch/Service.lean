/-!
# Identified services

What is known about the service behind a banner, with the rule that says so and the text that the
rule's pattern matched. An empty field is not known.
-/

namespace BannerMatch

/-- A service that a rule has identified. -/
structure Service where
  name : String
  product : String
  version : String := ""
  info : String := ""
  hostname : String := ""
  os : String := ""
  deviceType : String := ""
  cpe : String := ""
  /-- How sure the identification is, in percent. -/
  confidence : UInt8
  ruleId : String
  matchedText : String
deriving DecidableEq, Repr, Inhabited

/-- Name, product, version if known, and confidence on one line. -/
def Service.summary (s : Service) : String :=
  s.name ++ " (" ++ s.product ++ ")" ++ (if s.version.isEmpty then "" else " " ++ s.version) ++
    " [" ++ toString s.confidence ++ "%]"

end BannerMatch
