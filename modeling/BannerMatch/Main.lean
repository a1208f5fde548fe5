import BannerMatch.CommandLine.Run
import Std.Time.Zoned

/-!
# The program

Reads arguments, files and lines, measures times, and shows what the library answers.
-/

namespace BannerMatch.CommandLine

/-- A number with at least the given number of digits. -/
def withDigits (width : Nat) (n : Int) : String :=
  let digits := toString n.toNat
  String.ofList (List.replicate (width - digits.length) '0') ++ digits

/-- The present date and time of day. -/
def presentStamp : IO String := do
  let now ← Std.Time.PlainDateTime.now
  let date := [withDigits 4 now.year, withDigits 2 now.month.val, withDigits 2 now.day.val]
  let time := [withDigits 2 now.hour.val, withDigits 2 now.minute.val, withDigits 2 now.second.val]
  return "-".intercalate date ++ " " ++ ":".intercalate time

/-- The present moment. -/
def presentMoment : IO Moment := do
  return ⟨← IO.monoNanosNow, ← presentStamp⟩

/-- The contents of a file, if it can be read, with its path. -/
def fetch (path : Option String) : IO (List (String × List UInt8)) := do
  match path with
  | none => return []
  | some p =>
      try
        let bytes ← IO.FS.readBinFile p
        return [(p, bytes.toList)]
      catch _ => return []

/-- How long matches have taken. -/
structure Stopwatch where
  count : Nat := 0
  total : Nat := 0

/-- What is shown of times after a match that took `elapsed` nanoseconds. -/
def Stopwatch.timing (w : Stopwatch) (elapsed : Nat) (stamp : String) : Timing :=
  let average := if w.count = 0 then 0 else w.total / w.count
  let milliseconds := Binary.ofRatio elapsed 1000000
  { elapsed := milliseconds.fixed 3
    elapsedNumber := milliseconds.shortest
    averageSeconds := toString (average / 1000000000)
    averageNanoseconds := toString (average % 1000000000)
    reloadedAt := "\"" ++ stamp ++ "\"" }

/-- Answers lines until the session or the input ends. -/
partial def converse (stamp : String) (s : Session) (w : Stopwatch) : IO UInt32 := do
  let output ← IO.getStdout
  output.putStr prompt
  output.flush
  let line ← try some <$> (← IO.getStdin).getLine catch _ => pure none
  match line with
  | none => IO.eprintln RunFault.notText.message; return 1
  | some line =>
      if line.isEmpty then return 0
      let start ← IO.monoNanosNow
      let answer ← IO.lazyPure fun _ => s.turn start line.toList
      let elapsed := (← IO.monoNanosNow) - start
      match answer with
      | .error code => return code
      | .ok (shown, after) =>
          let timed := after.engine.counters.totalMatches != s.engine.counters.totalMatches
          let w := if timed then ⟨w.count + 1, w.total + elapsed⟩ else w
          output.putStr (shown (w.timing elapsed stamp))
          converse stamp after w

/-- Writes the rules of an engine to a file. -/
def exportTo (loaded : LoadReport × Engine) (path : String) : IO UInt32 := do
  try
    IO.FS.writeBinFile path ⟨(exportContents loaded.2).toArray⟩
    IO.print (exportLine loaded.1.loaded path)
    return 0
  catch _ =>
    IO.eprintln (RunFault.unwritable path).message
    return 1

/-- Identifies one banner. -/
def identifyOnce (a : Arguments) (now : Moment) (e : Engine) (banner : String) : IO UInt32 := do
  let start ← IO.monoNanosNow
  let found ← IO.lazyPure fun _ => singleResults a start e banner
  let elapsed := (← IO.monoNanosNow) - start
  match found with
  | .error _ => return brokenDownCode
  | .ok found =>
      IO.print (report a.format found (Stopwatch.timing ⟨1, elapsed⟩ elapsed now.stamp))
      return 0

/-- Does what the arguments ask for. -/
def serve (a : Arguments) : IO UInt32 := do
  let now ← presentMoment
  let files := (← fetch a.probeFile) ++ (← fetch a.rulesFile)
  match gatherRules a fun path => files.lookup path with
  | .error f => IO.eprintln f.message; return 1
  | .ok rules =>
      let loaded := loadedEngine now rules
      match a.exportFile with
      | some path => exportTo loaded path
      | none =>
          if a.interactive then
            IO.print greeting
            converse now.stamp (a.session loaded.2) {}
          else match a.banner with
            | none => IO.eprintln RunFault.nothingToMatch.message; return 1
            | some banner => identifyOnce a now loaded.2 banner

end BannerMatch.CommandLine

open BannerMatch.CommandLine in
/-- The program. -/
def main (arguments : List String) : IO UInt32 := do
  match readArguments arguments with
  | .error f => IO.eprintln ("error: " ++ f.message); return 2
  | .ok .help => IO.print helpText; return 0
  | .ok .version => IO.print versionLine; return 0
  | .ok (.run a) => serve a
