import BannerMatch.CommandLine.Directory
import BannerMatch.CommandLine.Session

/-!
# Runs of the program

A run takes arguments, what is typed and a directory with files, and gives what is shown, the
directory after it and an exit code: `0` if all went well, `2` if the arguments cannot be used,
`brokenDownCode` if a match breaks down, and `1` for any other failure.

Rules come from the built-in ones, the probe file and the rule set file, in this order; without any
file the built-in rules are used.
-/

namespace BannerMatch.CommandLine

/-- Why a run fails after its arguments have been read. -/
inductive RunFault
  | unreadable (path : String)
  | badRules (path : String) (failure : Failure)
  | unwritable (path : String)
  | nothingToMatch
  | notText
deriving DecidableEq, Repr

/-- The text of a fault. -/
def RunFault.message : RunFault → String
  | .unreadable p => "Failed to read file: " ++ p
  | .badRules p f => "Failed to parse rule set: " ++ p ++ ": " ++ f.message
  | .unwritable p => "Failed to write rule set: " ++ p
  | .nothingToMatch => "Nothing to match: pass --banner or --interactive"
  | .notText => "stream did not contain valid UTF-8"

/-- The rules of a probe file in bytes. -/
def probeRules (bytes : List UInt8) : List Rule :=
  match Probe.importSource {} ⟨bytes, none⟩ with
  | .ok report => report.rules
  | .error _ => []

/-- The rules of a rule set file in bytes. -/
def ruleSetRules (path : String) (bytes : List UInt8) : Except RunFault (List Rule) :=
  match Text.decode? bytes with
  | none => .error (.unreadable path)
  | some cs => match RuleSet.ofJsonText cs with
      | .error f => .error (.badRules path (.json f))
      | .ok set => .ok set.rules

/-- The rules of a file, if one is asked for; `read?` gives the contents of files. -/
def fileRules (read? : String → Option (List UInt8)) (path : Option String)
    (rules : String → List UInt8 → Except RunFault (List Rule)) : Except RunFault (List Rule) :=
  match path with
  | none => .ok []
  | some p => match read? p with
      | none => .error (.unreadable p)
      | some bytes => rules p bytes

/-- Whether the built-in rules are used. -/
def Arguments.usesBuiltin (a : Arguments) : Bool :=
  a.builtin || (a.probeFile.isNone && a.rulesFile.isNone)

/-- The rules that the arguments ask for; `read?` gives the contents of files. -/
def gatherRules (a : Arguments) (read? : String → Option (List UInt8)) :
    Except RunFault (List Rule) :=
  match fileRules read? a.probeFile fun _ bytes => .ok (probeRules bytes) with
  | .error f => .error f
  | .ok probed => match fileRules read? a.rulesFile ruleSetRules with
      | .error f => .error f
      | .ok listed => .ok ((if a.usesBuiltin then builtinRules else []) ++ probed ++ listed)

/-- What a run is given. -/
structure Setup where
  input : List UInt8 := []
  directory : Directory := {}
  start : Moment
  timing : Timing
  /-- How the lines of a session arrive: by default one after the other, without sweeps. -/
  arrival : Nat → Arrival := fun n => { instant := start.instant + n, timing := timing }

/-- What comes of a run. -/
structure Outcome where
  code : UInt32
  output : String := ""
  directory : Directory := {}
deriving DecidableEq, Repr

/-- An engine with rules. -/
def loadedEngine (now : Moment) (rules : List Rule) : LoadReport × Engine :=
  (Engine.new {}).load now rules

/-- The line about an exported file. -/
def exportLine (count : Nat) (path : String) : String :=
  "Exported " ++ toString count ++ " rules to " ++ path ++ "\n"

/-- The contents of an exported file. -/
def exportContents (e : Engine) : List UInt8 := Text.encode (e.exportJson true)

/-- Writes the rules of an engine to a file. -/
def runExport (s : Setup) (loaded : LoadReport × Engine) (path : String) :
    Except RunFault Outcome :=
  match s.directory.write? path (exportContents loaded.2) with
  | none => .error (.unwritable path)
  | some d => .ok ⟨0, exportLine loaded.1.loaded path, d⟩

/-- The results for one banner that are sure enough. -/
def singleResults (a : Arguments) (now : Nat) (e : Engine) (banner : String) :
    Except Breakdown (List Service) :=
  (e.matchResponse now banner (a.response.map fun r => Text.encode r.toList)).1.map
    (atLeast a.threshold)

/-- Identifies one banner. -/
def runSingle (a : Arguments) (s : Setup) (e : Engine) (banner : String) : Outcome :=
  match singleResults a s.start.instant e banner with
  | .ok found => ⟨0, report a.format found s.timing, s.directory⟩
  | .error _ => ⟨brokenDownCode, "", s.directory⟩

/-- The session that the arguments ask for. -/
def Arguments.session (a : Arguments) (e : Engine) : Session := ⟨e, a.format, a.threshold⟩

/-- Answers the lines that are typed. -/
def runSession (a : Arguments) (s : Setup) (e : Engine) : Outcome :=
  let dialogue := (a.session e).run s.arrival 0 (Text.byteLines s.input)
  ⟨dialogue.2, greeting ++ dialogue.1, s.directory⟩

/-- Does what the arguments ask for. -/
def runArguments (a : Arguments) (s : Setup) : Except RunFault Outcome :=
  match gatherRules a s.directory.read? with
  | .error f => .error f
  | .ok rules =>
      let loaded := loadedEngine s.start rules
      match a.exportFile with
      | some path => runExport s loaded path
      | none =>
          if a.interactive then .ok (runSession a s loaded.2)
          else match a.banner with
            | none => .error .nothingToMatch
            | some banner => .ok (runSingle a s loaded.2 banner)

/-- A run of the program. -/
def run (arguments : List String) (s : Setup) : Outcome :=
  match readArguments arguments with
  | .error _ => ⟨2, "", s.directory⟩
  | .ok .help => ⟨0, helpText, s.directory⟩
  | .ok .version => ⟨0, versionLine, s.directory⟩
  | .ok (.run a) => match runArguments a s with
      | .ok outcome => outcome
      | .error _ => ⟨1, "", s.directory⟩

end BannerMatch.CommandLine
