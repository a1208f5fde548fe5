import BannerMatch.CommandLine.Arguments
import BannerMatch.Engine.Basic

/-!
# Reports

How results, rules and numbers about the engine are shown. What is shown of times is not measured
here, but handed in as text.
-/

namespace BannerMatch.CommandLine

/-- What is shown of times. -/
structure Timing where
  /-- The time that a match took, in milliseconds with three places. -/
  elapsed : String
  /-- The same as a JSON number. -/
  elapsedNumber : String
  /-- Whole seconds of the average time of a match. -/
  averageSeconds : String
  /-- The nanoseconds beyond them. -/
  averageNanoseconds : String
  /-- The time of the last load as a JSON value. -/
  reloadedAt : String
deriving DecidableEq, Repr

/-- A text filled up with blanks to a width. -/
def padded (width : Nat) (s : String) : String :=
  s ++ String.ofList (List.replicate (width - s.length) ' ')

/-- A line for a field of a result. -/
def fieldLine (name value : String) : String := "   " ++ padded 7 name ++ " " ++ value ++ "\n"

/-- A line for a field of a result, unless the field is empty. -/
def optionalLine (name value : String) : String :=
  if value.isEmpty then "" else fieldLine name value

/-- The lines for the result with a number. -/
def resultLines (number : Nat) (s : Service) : String :=
  toString number ++ ". " ++ s.summary ++ "\n" ++
    optionalLine "info" s.info ++ optionalLine "os" s.os ++ optionalLine "host" s.hostname ++
    optionalLine "device" s.deviceType ++ optionalLine "cpe" s.cpe ++ fieldLine "rule" s.ruleId

/-- The lines for results, numbered from `n`. -/
def resultLinesFrom (n : Nat) : List Service → String
  | [] => ""
  | s :: rest => resultLines n s ++ resultLinesFrom (n + 1) rest

/-- Results as text. -/
def textReport (services : List Service) (t : Timing) : String :=
  let time := " (" ++ t.elapsed ++ " ms)\n"
  if services.isEmpty then "No match" ++ time
  else toString services.length ++ " match(es)" ++ time ++ resultLinesFrom 1 services

/-- An object with its members in the order of their names. -/
def sortedObject (v : Json.Value) : Json.Value :=
  match v with
  | .object members => .object (members.mergeSort fun a b => a.1 ≤ b.1)
  | other => other

/-- A JSON value on several lines, and the end of the last line. -/
def block (v : Json.Value) : String := String.ofList (v.pretty 0 ++ ['\n'])

/-- Results as JSON. -/
def jsonReport (services : List Service) (t : Timing) : String :=
  block (.object [
    ("count", .number (toString services.length)),
    ("elapsed_ms", .number t.elapsedNumber),
    ("matches", .list (services.map fun s => sortedObject s.toJson))])

/-- Results in a format. -/
def report (format : Format) (services : List Service) (t : Timing) : String :=
  match format with
  | .text => textReport services t
  | .json => jsonReport services t

/-- The line for a rule. -/
def ruleLine (r : Rule) : String :=
  "  " ++ padded 20 r.id ++ " " ++ padded 10 r.service ++ " " ++ padded 24 r.product ++ " " ++
    toString r.confidence ++ "%\n"

/-- The lines for rules. -/
def ruleLines (rules : List Rule) : String := String.join (rules.map ruleLine)

/-- Numbers about an engine. -/
def statsReport (s : EngineStats) (t : Timing) : String :=
  let count (n : Nat) : Json.Value := .number (toString n)
  block (.object [
    ("total_rules", count s.totalRules),
    ("inert_rules", count s.inertRules),
    ("total_matches", count s.counters.totalMatches),
    ("cache_hits", count s.counters.hits),
    ("cache_misses", count s.counters.misses),
    ("cache_hit_rate", .number s.hitRate.shortest),
    ("cached_entries", count s.cachedEntries),
    ("rule_evaluations", count s.counters.evaluations),
    ("avg_match_time", .object [
      ("secs", .number t.averageSeconds), ("nanos", .number t.averageNanoseconds)]),
    ("last_reload_time", if s.reloadedAt.isSome then .number t.reloadedAt else .null)])

/-- What the interactive mode understands. -/
def sessionHelp : String :=
  "  <banner>        identify a banner\n" ++
  "  match <banner>  identify a banner\n" ++
  "  stats           show engine statistics\n" ++
  "  rules           list loaded rules\n" ++
  "  quit            exit\n"

/-- The line that tells the version of the program. -/
def versionLine : String := programName ++ " " ++ programVersion ++ "\n"

/-- What the program understands. -/
def helpText : String :=
  "Identify services from network banners\n\n" ++
  "Usage: " ++ programName ++ " [OPTIONS]\n\n" ++
  "Options:\n" ++
  "  -b, --banner <BANNER>                  Banner to identify\n" ++
  "      --response <RESPONSE>              Base64 encoded response of the service\n" ++
  "  -p, --probe-file <PROBE_FILE>          Nmap service-probes style rule file\n" ++
  "  -r, --rules <RULES>                    JSON rule set file\n" ++
  "      --builtin                          Include the built-in rules\n" ++
  "  -o, --output <OUTPUT>                  Output format: text or json\n" ++
  "  -m, --min-confidence <MIN_CONFIDENCE>  Drop results below this confidence\n" ++
  "  -i, --interactive                      Read banners from stdin\n" ++
  "      --export <EXPORT>                  Write the loaded rules as a JSON rule set and exit\n" ++
  "  -h, --help                             Print help\n" ++
  "  -V, --version                          Print version\n"

end BannerMatch.CommandLine
