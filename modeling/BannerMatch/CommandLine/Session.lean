import BannerMatch.CommandLine.Report
import BannerMatch.Engine.Operation

/-!
# Interactive sessions

In a session the program asks for lines and answers each one: a command, or a banner to identify.
`Session.turn` is the answer to one line, `Session.run` the dialogue over all of them. While the
program waits for a line, a sweeper may remove expired results from the cache. A session ends with
an exit code: `0` at the end of the input or when asked to, `1` at a line that is not text, and
another one if a match breaks down.
-/

namespace BannerMatch.CommandLine

/-- The state of a session. -/
structure Session where
  engine : Engine
  format : Format
  /-- The least confidence of results. -/
  threshold : UInt8

/-- What a line of a session asks for. -/
inductive Command
  | nothing
  | quit
  | help
  | stats
  | rules
  | identify (banner : List Char)
deriving DecidableEq, Repr

/-- A text without `before` at its start; other texts stay as they are. -/
def dropStart (before cs : List Char) : List Char :=
  if before.isPrefixOf cs then cs.drop before.length else cs

/-- The command on a line: white space around it does not count, and a banner may stand behind the
word `match`. -/
def Command.ofLine (line : List Char) : Command :=
  let input := Text.trim line
  if input.isEmpty then .nothing
  else if input = "quit".toList ∨ input = "exit".toList then .quit
  else if input = "help".toList then .help
  else if input = "stats".toList then .stats
  else if input = "rules".toList then .rules
  else .identify (dropStart "match ".toList input)

/-- The exit code of a program that broke down. -/
def brokenDownCode : UInt32 := 101

/-- The engine's results for a banner that are sure enough, with the engine after the match. -/
def Session.identify (s : Session) (now : Nat) (banner : String) :
    Except Breakdown (List Service) × Engine :=
  let found := s.engine.matchBanner now banner
  (found.1.map (atLeast s.threshold), found.2)

/-- The answer to a command at an instant, and the session after it, or the exit code with which the
session ends. -/
def Session.answer (s : Session) (now : Nat) (c : Command) :
    Except UInt32 ((Timing → String) × Session) :=
  match c with
  | .nothing => .ok (fun _ => "", s)
  | .quit => .error 0
  | .help => .ok (fun _ => sessionHelp, s)
  | .stats => .ok (statsReport s.engine.stats, s)
  | .rules => .ok (fun _ => ruleLines s.engine.rules, s)
  | .identify banner =>
      match s.identify now (String.ofList banner) with
      | (.ok found, after) => .ok (report s.format found, { s with engine := after })
      | (.error _, _) => .error brokenDownCode

/-- The answer to a line at an instant. -/
def Session.turn (s : Session) (now : Nat) (line : List Char) :
    Except UInt32 ((Timing → String) × Session) :=
  s.answer now (.ofLine line)

/-- What is shown first. -/
def greeting : String :=
  "Interactive mode: type a banner, or `stats`, `rules`, `help`, `quit`\n"

/-- What is shown before every line. -/
def prompt : String := "banner> "

/-- What happens until a line has come, and how long its answer takes. -/
structure Arrival where
  /-- When the sweeper is woken up before the line comes. -/
  wakeups : List Nat := []
  instant : Nat
  timing : Timing

/-- The session after its sweeper was woken up at the given instants. -/
def Session.wait (s : Session) (wakeups : List Nat) : Session :=
  match s.engine.runSweeper (some wakeups) with
  | .ok swept => { s with engine := swept.2 }
  | .error _ => s

/-- What a session shows for the lines that are typed, given in bytes, and the exit code with which
it ends: a line that is not text breaks it off. The first line arrives as number `n`. -/
def Session.run (arrival : Nat → Arrival) (s : Session) (n : Nat) :
    List (List UInt8) → String × UInt32
  | [] => (prompt, 0)
  | bytes :: rest => match Text.decode? bytes with
      | none => (prompt, 1)
      | some line =>
          match (s.wait (arrival n).wakeups).turn (arrival n).instant line with
          | .error code => (prompt, code)
          | .ok (shown, after) =>
              let others := after.run arrival (n + 1) rest
              (prompt ++ shown (arrival n).timing ++ others.1, others.2)

end BannerMatch.CommandLine
